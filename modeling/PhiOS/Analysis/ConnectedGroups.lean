import PhiOS.Analysis.DependencyGroups

/-!
# Connected groups

The dependency groups of evidence paths are the connected components of the graph of their pairs,
whatever pairs are merged and in what order. The search for a cycle of the parent graph is one call
within another, and the interpreter allows only so many: an acyclic parent graph is accepted exactly
when no chain of calls is longer.

* `accepts_acyclic_iff`: the groups, and when the parent graph is accepted
* `long_chain_refused`: a chain of more parents than calls are allowed
-/

set_option autoImplicit false

namespace PhiOS

namespace DeliberationEvidence

/-- There is a pair of the two paths, and it is not related as independent. -/
def Dependent (pairs : List PairwiseRelation) (a b : String) : Prop :=
  ∃ pair ∈ pairs, pair.relation ≠ .independent ∧ pair.leftPathId = a ∧ pair.rightPathId = b

/-- The graph whose edges are the pairs that are not related as independent. -/
def dependencyGraph (pairs : List PairwiseRelation) : SimpleGraph String :=
  SimpleGraph.fromRel (Dependent pairs)

/-- The groups are the connected components of a graph on the paths: each path is in one group, and
the groups and their members are in order. -/
structure Components (pathIds : List String) (graph : SimpleGraph String)
    (groups : List (List String)) : Prop where
  component : ∀ values, values ∈ groups ↔ values.Pairwise (· < ·) ∧
    ∃ a ∈ pathIds, ∀ x, x ∈ values ↔ x ∈ pathIds ∧ graph.Reachable a x
  once : ∀ a ∈ pathIds, ∃! values, values ∈ groups ∧ a ∈ values
  sorted : groups.Pairwise (· < ·)

/-! ## Groups -/

section

variable {pathIds : List String} {pairs pairs' : List PairwiseRelation} {a b : String}

theorem reachable_of_dependent (h : Dependent pairs a b) : (dependencyGraph pairs).Reachable a b := by
  by_cases hab : a = b
  · rw [hab]
  · exact SimpleGraph.Adj.reachable ((SimpleGraph.fromRel_adj _ _ _).mpr ⟨hab, .inl h⟩)

/-- After all pairs are merged, paths lead to one root exactly when they are connected.
SOURCE: mandala/independence.py:424-446. -/
theorem same_iff_reachable {parent : String → String} (hforest : UnionFind.Forest pathIds parent)
    (hpairs : ∀ pair ∈ pairs, pair.leftPathId ∈ pathIds ∧ pair.rightPathId ∈ pathIds)
    (hparent : parent = ((pairs.filter (·.relation ≠ .independent)).map fun pair =>
      (pair.leftPathId, pair.rightPathId)).foldl
        (fun parent pair => UnionFind.union pathIds.length parent pair.1 pair.2) id)
    (ha : a ∈ pathIds) (hb : b ∈ pathIds) :
    UnionFind.Same parent a b ↔ (dependencyGraph pairs).Reachable a b := by
  have hmerged : ∀ names ∈ (pairs.filter (·.relation ≠ .independent)).map (fun pair =>
      (pair.leftPathId, pair.rightPathId)),
      (names.1 ∈ pathIds ∧ names.2 ∈ pathIds) ∧ Dependent pairs names.1 names.2 := by
    intro names hnames
    obtain ⟨pair, hpair, rfl⟩ := List.mem_map.mp hnames
    obtain ⟨hmem, hrelation⟩ := List.mem_filter.mp hpair
    exact ⟨hpairs pair hmem, pair, hmem, by simpa using hrelation, rfl, rfl⟩
  constructor
  · intro hsame
    rw [hparent] at hsame
    refine UnionFind.connected_of_foldl (dependencyGraph pairs).reachable_is_equivalence
      UnionFind.forest_id (fun names hnames => ?_) (le_refl _) ?_ ha hb hsame
    · exact ⟨(hmerged names hnames).1, reachable_of_dependent (hmerged names hnames).2⟩
    · rintro x y - - ⟨root, ⟨hx, -⟩, hy, -⟩
      have hxroot : root = x := UnionFind.leads_root rfl hx
      have hyroot : root = y := UnionFind.leads_root rfl hy
      rw [← hxroot, ← hyroot]
  · intro hreach
    have hunited : ∀ {x y}, Dependent pairs x y → UnionFind.Same parent x y := by
      rintro x y ⟨pair, hpair, hrelation, rfl, rfl⟩
      rw [hparent]
      refine (UnionFind.united_foldl UnionFind.forest_id (fun names hnames =>
        (hmerged names hnames).1) (le_refl _)).2.2 (pair.leftPathId, pair.rightPathId) ?_
      exact List.mem_map.mpr ⟨pair, List.mem_filter.mpr ⟨hpair, by simpa using hrelation⟩, rfl⟩
    rw [SimpleGraph.reachable_iff_reflTransGen] at hreach
    induction hreach with
    | refl => exact hforest.same_refl ha
    | @tail x y _ hadj ih =>
        have hstep : UnionFind.Same parent x y := by
          rcases ((SimpleGraph.fromRel_adj _ _ _).mp hadj).2 with hxy | hyx
          · exact hunited hxy
          · exact (hunited hyx).symm
        have hx : x ∈ pathIds := by
          rcases ((SimpleGraph.fromRel_adj _ _ _).mp hadj).2 with
            ⟨pair, hpair, -, rfl, -⟩ | ⟨pair, hpair, -, -, rfl⟩
          · exact (hpairs pair hpair).1
          · exact (hpairs pair hpair).2
        exact (ih hx).trans hstep

theorem eq_cons_of_least {values : List String} {key : String} (hsorted : values.Pairwise (· < ·))
    (hkey : key ∈ values) (hle : ∀ x ∈ values, key ≤ x) : ∃ rest, values = key :: rest := by
  cases values with
  | nil => simp at hkey
  | cons first rest =>
      refine ⟨rest, ?_⟩
      rcases List.mem_cons.mp hkey with heq | hmem
      · rw [heq]
      · have hlt := (List.pairwise_cons.mp hsorted).1 key hmem
        exact absurd hlt (not_lt.mpr (hle first (by simp)))

theorem pairwise_lt_of_nodup {values : List String} (h : values.Nodup) :
    (values.insertionSort (· ≤ ·)).Pairwise (· < ·) := by
  have hle := List.pairwise_insertionSort (· ≤ ·) values
  have hnodup := ((List.perm_insertionSort (· ≤ ·) values).nodup_iff).mpr h
  exact (hle.and hnodup).imp fun h => lt_of_le_of_ne h.1 h.2

/-- The groups are the connected components of the graph.
SOURCE: mandala/independence.py:424-454. -/
theorem conservativeGroups_components (hids : pathIds.Nodup)
    (hpairs : ∀ pair ∈ pairs, pair.leftPathId ∈ pathIds ∧ pair.rightPathId ∈ pathIds) :
    Components pathIds (dependencyGraph pairs) (conservativeGroups pathIds pairs) := by
  generalize hunion : ((pairs.filter (·.relation ≠ .independent)).map fun pair =>
      (pair.leftPathId, pair.rightPathId)).foldl
        (fun parent pair => UnionFind.union pathIds.length parent pair.1 pair.2) id = parent
  have hforest : UnionFind.Forest pathIds parent := by
    rw [← hunion]
    refine (UnionFind.united_foldl UnionFind.forest_id (fun names hnames => ?_) (le_refl _)).1
    obtain ⟨pair, hpair, rfl⟩ := List.mem_map.mp hnames
    exact hpairs pair (List.mem_of_mem_filter hpair)
  have hgroups : conservativeGroups pathIds pairs =
      ((UnionFind.grouped pathIds.length parent [] pathIds).insertionSort (·.1 ≤ ·.1)).map
        fun group => group.2.insertionSort (· ≤ ·) := by
    rw [← hunion]
    rfl
  have hkeys := (hforest.grouped_items (le_refl pathIds.length)).1
  have hvalues : ∀ {key values},
      (key, values) ∈ UnionFind.grouped pathIds.length parent [] pathIds →
      values.Nodup ∧ key ∈ values ∧ (∀ x ∈ values, key ≤ x) ∧
        ∀ x, x ∈ values ↔ x ∈ pathIds ∧ UnionFind.Same parent key x :=
    fun hgroup => hforest.grouped_values (le_refl _) hids hgroup
  have hsame : ∀ {x y}, x ∈ pathIds → y ∈ pathIds →
      (UnionFind.Same parent x y ↔ (dependencyGraph pairs).Reachable x y) :=
    fun hx hy => same_iff_reachable hforest hpairs hunion.symm hx hy
  -- What one of the groups is.
  have hto : ∀ {values}, values ∈ conservativeGroups pathIds pairs →
      values.Pairwise (· < ·) ∧ ∃ a ∈ pathIds, ∀ x, x ∈ values ↔
        x ∈ pathIds ∧ (dependencyGraph pairs).Reachable a x := by
    intro values hgroup
    rw [hgroups] at hgroup
    obtain ⟨⟨key, members⟩, hmem, rfl⟩ := List.mem_map.mp hgroup
    obtain ⟨hnodup, hkey, -, hiff⟩ := hvalues ((List.mem_insertionSort _).mp hmem)
    have hkeyItem := ((hiff key).mp hkey).1
    refine ⟨pairwise_lt_of_nodup hnodup, key, hkeyItem, fun x => ?_⟩
    rw [List.mem_insertionSort, hiff]
    exact and_congr_right fun hx => hsame hkeyItem hx
  -- Each path is in one of them.
  have hfrom : ∀ {a}, a ∈ pathIds → ∃ values ∈ conservativeGroups pathIds pairs, a ∈ values := by
    intro a ha
    obtain ⟨root, -, hroot⟩ := hforest.exists_root ha
    obtain ⟨members, hmem, haMember⟩ := (hforest.grouped_items (le_refl _)).2.mpr ⟨ha, hroot⟩
    refine ⟨members.insertionSort (· ≤ ·), ?_, (List.mem_insertionSort _).mpr haMember⟩
    rw [hgroups]
    exact List.mem_map_of_mem (f := fun group : String × List String => group.2.insertionSort (· ≤ ·))
      ((List.mem_insertionSort _).mpr hmem)
  have hunique : ∀ {values values' : List String} {a},
      values.Pairwise (· < ·) ∧ (∃ a ∈ pathIds, ∀ x, x ∈ values ↔
        x ∈ pathIds ∧ (dependencyGraph pairs).Reachable a x) →
      values'.Pairwise (· < ·) ∧ (∃ a ∈ pathIds, ∀ x, x ∈ values' ↔
        x ∈ pathIds ∧ (dependencyGraph pairs).Reachable a x) →
      a ∈ values → a ∈ values' → values = values' := by
    rintro values values' a ⟨hsorted, b, -, hb⟩ ⟨hsorted', c, -, hc⟩ ha ha'
    refine hsorted.eq_of_mem_iff hsorted' fun x => ?_
    have hba := ((hb a).mp ha).2
    have hca := ((hc a).mp ha').2
    rw [hb, hc]
    exact and_congr_right fun _ =>
      ⟨fun hx => hca.trans (hba.symm.trans hx), fun hx => hba.trans (hca.symm.trans hx)⟩
  refine ⟨fun values => ⟨hto, fun hvalues => ?_⟩, fun a ha => ?_, ?_⟩
  · obtain ⟨a, ha, haValues⟩ := hvalues.2
    have hself : a ∈ values := (haValues a).mpr ⟨ha, .refl a⟩
    obtain ⟨values', hmem, haMem⟩ := hfrom ha
    rwa [hunique hvalues (hto hmem) hself haMem]
  · obtain ⟨values, hmem, haMem⟩ := hfrom ha
    refine ⟨values, ⟨hmem, haMem⟩, ?_⟩
    rintro values' ⟨hmem', haMem'⟩
    exact hunique (hto hmem') (hto hmem) haMem' haMem
  · rw [hgroups, List.pairwise_map]
    have hle := List.pairwise_insertionSort (fun x y : String × List String => x.1 ≤ y.1)
      (UnionFind.grouped pathIds.length parent [] pathIds)
    have hne : ((UnionFind.grouped pathIds.length parent [] pathIds).insertionSort
        (·.1 ≤ ·.1)).Pairwise (·.1 ≠ ·.1) := by
      have hperm := (List.perm_insertionSort (fun x y : String × List String => x.1 ≤ y.1)
        (UnionFind.grouped pathIds.length parent [] pathIds)).map (·.1)
      exact List.pairwise_map.mp (hperm.nodup_iff.mpr hkeys)
    refine (hle.and hne).imp_of_mem ?_
    rintro ⟨key, members⟩ ⟨key', members'⟩ hmem hmem' ⟨hkeyLe, hkeyNe⟩
    obtain ⟨hnodup, hkey, hleast, -⟩ := hvalues ((List.mem_insertionSort _).mp hmem)
    obtain ⟨hnodup', hkey', hleast', -⟩ := hvalues ((List.mem_insertionSort _).mp hmem')
    obtain ⟨rest, hrest⟩ := eq_cons_of_least (pairwise_lt_of_nodup hnodup)
      ((List.mem_insertionSort _).mpr hkey) fun x hx => hleast x ((List.mem_insertionSort _).mp hx)
    obtain ⟨rest', hrest'⟩ := eq_cons_of_least (pairwise_lt_of_nodup hnodup')
      ((List.mem_insertionSort _).mpr hkey') fun x hx => hleast' x ((List.mem_insertionSort _).mp hx)
    dsimp only
    rw [hrest, hrest']
    exact List.cons_lt_cons_iff.mpr (.inl (lt_of_le_of_ne hkeyLe hkeyNe))

/-- The order in which pairs are merged changes no group: a graph has one list of
components. -/
theorem Components.unique {graph : SimpleGraph String} {groups groups' : List (List String)}
    (h : Components pathIds graph groups) (h' : Components pathIds graph groups') :
    groups = groups' := by
  refine h.sorted.eq_of_mem_iff h'.sorted fun values => ?_
  rw [h.component, h'.component]

theorem dependencyGraph_perm (h : pairs.Perm pairs') : dependencyGraph pairs = dependencyGraph pairs' := by
  have heq : Dependent pairs = Dependent pairs' := by
    funext a b
    simp only [Dependent, h.mem_iff]
  unfold dependencyGraph
  rw [heq]

end

/-! ## The parent graph -/

/-- No path is an ancestor of its own. -/
def Acyclic (paths : List EvidencePath) : Prop := ∀ pathId, ¬ IsAncestor paths pathId pathId

/-- A path is one of some others, or an ancestor of one. -/
def Above (paths : List EvidencePath) (earlier : List String) (pathId : String) : Prop :=
  ∃ other ∈ earlier, Relation.ReflTransGen (IsParent paths) pathId other

/-- A chain of paths, so many of them, each but the first a parent of the one before it, that begins
with a path. Each but the last is none of the paths earlier in the order of the search, and no
ancestor of one: earlier are some paths, and of every path of the chain the parents that come before
the one that the chain goes on with. -/
inductive Descends (paths : List EvidencePath) : List String → String → ℕ → Prop
  | single {earlier : List String} {pathId : String} : Descends paths earlier pathId 1
  | parent {earlier before after : List String} {path : EvidencePath} {parentId : String} {n : ℕ}
      (hfresh : ¬ Above paths earlier path.pathId) (hpath : path ∈ paths)
      (hparents : path.parentPathIds = before ++ parentId :: after)
      (hrest : Descends paths (earlier ++ before) parentId n) :
      Descends paths earlier path.pathId (n + 1)

/-- From no path, the paths in order of their names, does such a chain have more members than calls
are allowed within each other. -/
def Shallow (recursionLimit : ℕ) (paths : List EvidencePath) : Prop :=
  ∀ before pathId after, sortedSet (paths.map (·.pathId)) = before ++ pathId :: after →
    ∀ n, Descends paths before pathId n → n ≤ recursionLimit

section

variable {paths : List EvidencePath} {earlier visited visited' visiting : List String}
  {pathId x : String} {depth recursionLimit n : ℕ}

/-- What has been visited are the paths called so far, and their ancestors. -/
def Marks (paths : List EvidencePath) (visited earlier : List String) : Prop :=
  ∀ x, x ∈ visited ↔ Above paths earlier x

theorem above_append {more : List String} :
    Above paths (earlier ++ more) x ↔ Above paths earlier x ∨ Above paths more x := by
  simp only [Above, List.mem_append, or_and_right, exists_or]

theorem above_singleton :
    Above paths [pathId] x ↔ Relation.ReflTransGen (IsParent paths) x pathId := by
  simp [Above]

theorem Above.trans (h : Above paths earlier pathId)
    (hx : Relation.ReflTransGen (IsParent paths) x pathId) : Above paths earlier x := by
  obtain ⟨other, hother, hleads⟩ := h
  exact ⟨other, hother, hx.trans hleads⟩

theorem reflTransGen_iff_parents (hids : (paths.map (·.pathId)).Nodup) {path : EvidencePath}
    (hpath : path ∈ paths) :
    Relation.ReflTransGen (IsParent paths) x path.pathId ↔
      x = path.pathId ∨ Above paths path.parentPathIds x := by
  constructor
  · intro h
    rcases Relation.ReflTransGen.cases_tail h with heq | ⟨parent, hleads, other, hother, hid, hmem⟩
    · exact .inl heq.symm
    · rw [List.inj_on_of_nodup_map hids hother hpath hid] at hmem
      exact .inr ⟨parent, hmem, hleads⟩
  · rintro (rfl | ⟨parent, hmem, hleads⟩)
    · exact .refl
    · exact hleads.tail ⟨path, hpath, rfl, hmem⟩

theorem visitAll_marks {visit : List String → String → Except PyError (List String)}
    {rest : List String}
    (hvisit : ∀ {visited visited' earlier pathId}, Marks paths visited earlier →
      visit visited pathId = .ok visited' → Marks paths visited' (earlier ++ [pathId]))
    (hmarks : Marks paths visited earlier) (h : visitAll visit visited rest = .ok visited') :
    Marks paths visited' (earlier ++ rest) := by
  induction rest generalizing visited earlier with
  | nil =>
      obtain rfl := Except.ok.inj h
      rwa [List.append_nil]
  | cons first rest ih =>
      obtain ⟨middle, hfirst, hrest⟩ := bind_eq_ok.mp h
      have hnext := ih (hvisit hmarks hfirst) hrest
      rwa [List.append_assoc] at hnext

/-- A call that returns has marked its path and the ancestors of it, and nothing else. The
induction is on the depth of the calls. -/
theorem visit_marks (hids : (paths.map (·.pathId)).Nodup) (hmarks : Marks paths visited earlier)
    (h : visit paths depth visiting visited pathId = .ok visited') :
    Marks paths visited' (earlier ++ [pathId]) := by
  induction depth generalizing visiting visited visited' earlier pathId with
  | zero => cases h
  | succ depth ih =>
      unfold visit at h
      by_cases hmem : pathId ∈ visited
      · rw [if_pos hmem] at h
        obtain rfl := Except.ok.inj h
        intro x
        rw [hmarks, above_append, above_singleton]
        exact ⟨.inl, fun hx => hx.elim id ((hmarks pathId).mp hmem).trans⟩
      · rw [if_neg hmem] at h
        obtain ⟨_, -, h⟩ := bind_eq_ok.mp h
        obtain ⟨path, hlookup, h⟩ := bind_eq_ok.mp h
        obtain ⟨middle, hparents, h⟩ := bind_eq_ok.mp h
        obtain rfl := Except.ok.inj h
        obtain ⟨hpath, rfl⟩ := lookup_spec hlookup
        have hmiddle := visitAll_marks ih hmarks hparents
        intro x
        rw [List.mem_cons, hmiddle, above_append, above_append, above_singleton,
          reflTransGen_iff_parents hids hpath]
        exact or_left_comm

/-- The calls return where each of them does on what those before it marked. -/
theorem visitAll_returns {visit : List String → String → Except PyError (List String)}
    {rest : List String}
    (hvisit : ∀ {visited visited' earlier pathId}, Marks paths visited earlier →
      visit visited pathId = .ok visited' → Marks paths visited' (earlier ++ [pathId]))
    (hmarks : Marks paths visited earlier)
    (hreturns : ∀ before pathId after, rest = before ++ pathId :: after →
      ∀ visited, Marks paths visited (earlier ++ before) →
        ∃ visited', visit visited pathId = .ok visited') :
    ∃ visited', visitAll visit visited rest = .ok visited' := by
  induction rest generalizing visited earlier with
  | nil => exact ⟨visited, rfl⟩
  | cons first rest ih =>
      obtain ⟨middle, hfirst⟩ := hreturns [] first rest rfl visited (by rwa [List.append_nil])
      obtain ⟨visited', hrest⟩ := ih (hvisit hmarks hfirst) fun before pathId after heq visited hvisited =>
        hreturns (first :: before) pathId after (by rw [heq]; rfl) visited
          (by rwa [List.append_assoc] at hvisited)
      exact ⟨visited', bind_eq_ok.mpr ⟨middle, hfirst, hrest⟩⟩

theorem visitAll_call {visit : List String → String → Except PyError (List String)}
    {before after : List String}
    (hvisit : ∀ {visited visited' earlier pathId}, Marks paths visited earlier →
      visit visited pathId = .ok visited' → Marks paths visited' (earlier ++ [pathId]))
    (hmarks : Marks paths visited earlier)
    (h : visitAll visit visited (before ++ pathId :: after) = .ok visited') :
    ∃ middle middle', Marks paths middle (earlier ++ before) ∧ visit middle pathId = .ok middle' := by
  induction before generalizing visited earlier with
  | nil =>
      obtain ⟨middle, hfirst, -⟩ := bind_eq_ok.mp h
      exact ⟨visited, middle, by rwa [List.append_nil], hfirst⟩
  | cons first before ih =>
      obtain ⟨middle, hfirst, hrest⟩ := bind_eq_ok.mp h
      have hnext := ih (hvisit hmarks hfirst) hrest
      rwa [List.append_assoc] at hnext

theorem lookup_of_mem (hids : (paths.map (·.pathId)).Nodup) {path : EvidencePath}
    (hpath : path ∈ paths) : lookup paths path.pathId = .ok path := by
  unfold lookup
  split
  · rename_i found hfound
    have hmem := List.mem_reverse.mp (List.mem_of_find?_eq_some hfound)
    have hid : found.pathId = path.pathId := by simpa using List.find?_some hfound
    rw [List.inj_on_of_nodup_map hids hmem hpath hid]
  · rename_i hnone
    have hne := List.find?_eq_none.mp hnone path (List.mem_reverse.mpr hpath)
    simp at hne

/-- A call returns where no chain of the search is longer than calls are allowed. The
induction is on their number; the calls that it is made within are on paths that the path is an
ancestor of, so that it is none of them.
SOURCE: mandala/independence.py:388-398. -/
theorem visit_returns (hids : (paths.map (·.pathId)).Nodup) (hacyclic : Acyclic paths)
    (hknown : ∀ path ∈ paths, ∀ parent ∈ path.parentPathIds, parent ∈ paths.map (·.pathId))
    (hpath : pathId ∈ paths.map (·.pathId)) (hmarks : Marks paths visited earlier)
    (hvisiting : ∀ child ∈ visiting, IsAncestor paths pathId child)
    (hdepth : ∀ n, Descends paths earlier pathId n → n ≤ depth) :
    ∃ visited', visit paths depth visiting visited pathId = .ok visited' := by
  induction depth generalizing visiting visited earlier pathId with
  | zero => exact absurd (hdepth 1 .single) (by omega)
  | succ depth ih =>
      unfold visit
      by_cases hmem : pathId ∈ visited
      · rw [if_pos hmem]
        exact ⟨visited, rfl⟩
      · rw [if_neg hmem]
        obtain ⟨path, hpathMem, rfl⟩ := List.mem_map.mp hpath
        have hnot : path.pathId ∉ visiting := fun h => hacyclic _ (hvisiting _ h)
        have hall : ∃ middle, visitAll (visit paths depth (path.pathId :: visiting)) visited
            path.parentPathIds = .ok middle := by
          refine visitAll_returns (visit_marks hids) hmarks ?_
          intro before parent after heq visited hvisited
          have hparent : parent ∈ path.parentPathIds := by rw [heq]; simp
          have hstep : IsParent paths parent path.pathId := ⟨path, hpathMem, rfl, hparent⟩
          refine ih (hknown path hpathMem parent hparent) hvisited ?_ ?_
          · intro child hchild
            rcases List.mem_cons.mp hchild with rfl | hchild
            · exact .single hstep
            · exact .head hstep (hvisiting child hchild)
          · intro n hn
            have hfresh : ¬ Above paths earlier path.pathId := fun h => hmem ((hmarks _).mpr h)
            have hle := hdepth (n + 1) (.parent hfresh hpathMem heq hn)
            omega
        obtain ⟨middle, hmiddle⟩ := hall
        refine ⟨path.pathId :: middle, ?_⟩
        exact bind_eq_ok.mpr ⟨(), raiseIf_eq_ok.mpr hnot, bind_eq_ok.mpr
          ⟨path, lookup_of_mem hids hpathMem, bind_eq_ok.mpr ⟨middle, hmiddle, rfl⟩⟩⟩

/-- Where a call returns, no chain of the search is longer than calls were allowed. The
induction is on the chain. -/
theorem le_of_visit (hids : (paths.map (·.pathId)).Nodup) (hdescends : Descends paths earlier pathId n)
    (hmarks : Marks paths visited earlier)
    (h : visit paths depth visiting visited pathId = .ok visited') : n ≤ depth := by
  induction hdescends generalizing visiting visited visited' depth with
  | single =>
      cases depth with
      | zero => cases h
      | succ depth => omega
  | @parent earlier before after path parentId n hfresh hpath hparents _ ih =>
      cases depth with
      | zero => cases h
      | succ depth =>
          unfold visit at h
          rw [if_neg fun hmem => hfresh ((hmarks _).mp hmem)] at h
          obtain ⟨_, -, h⟩ := bind_eq_ok.mp h
          obtain ⟨found, hlookup, h⟩ := bind_eq_ok.mp h
          obtain ⟨middle, hall, -⟩ := bind_eq_ok.mp h
          rw [lookup_of_mem hids hpath] at hlookup
          obtain rfl := Except.ok.inj hlookup
          rw [hparents] at hall
          obtain ⟨_, _, hmiddle, hcall⟩ := visitAll_call (visit_marks hids) hmarks hall
          have hle := ih hmiddle hcall
          omega

theorem marks_nil : Marks paths [] [] := by simp [Marks, Above]

/-- An acyclic parent graph is accepted exactly when it is shallow enough. -/
theorem validateParentGraph_iff (hids : (paths.map (·.pathId)).Nodup) (hacyclic : Acyclic paths)
    (hknown : ∀ path ∈ paths, ∀ parent ∈ path.parentPathIds, parent ∈ paths.map (·.pathId)) :
    validateParentGraph recursionLimit paths = .ok () ↔ Shallow recursionLimit paths := by
  constructor
  · intro h before pathId after heq n hn
    obtain ⟨visited, hall, -⟩ := bind_eq_ok.mp h
    rw [heq] at hall
    obtain ⟨_, _, hmiddle, hcall⟩ := visitAll_call (visit_marks hids) marks_nil hall
    exact le_of_visit hids hn hmiddle hcall
  · intro hshallow
    have hall : ∃ visited, visitAll (visit paths recursionLimit []) []
        (sortedSet (paths.map (·.pathId))) = .ok visited := by
      refine visitAll_returns (visit_marks hids) marks_nil ?_
      intro before pathId after heq visited hvisited
      have hpath : pathId ∈ paths.map (·.pathId) := by
        rw [← mem_sortedSet, heq]
        simp
      exact visit_returns hids hacyclic hknown hpath hvisited (by simp)
        fun n hn => hshallow before pathId after heq n hn
    obtain ⟨visited, hvisited⟩ := hall
    exact bind_eq_ok.mpr ⟨visited, hvisited, rfl⟩

/-- MAIN: **Groups are components, and shallow acyclic graphs are accepted.** Whatever pairs of the
paths are not independent, the groups are the connected components of their graph, in whatever order
the pairs are merged; and every search for a root that a run of merges and searches comes to ends
there. A parent graph is accepted exactly when it is acyclic, if and only if it has a cycle or no
chain of the search for one is longer than calls are allowed. -/
theorem accepts_acyclic_iff {pathIds : List String} {pairs : List PairwiseRelation}
    (hpathIds : pathIds.Nodup)
    (hpairs : ∀ pair ∈ pairs, pair.leftPathId ∈ pathIds ∧ pair.rightPathId ∈ pathIds)
    (hids : (paths.map (·.pathId)).Nodup)
    (hknown : ∀ path ∈ paths, ∀ parent ∈ path.parentPathIds, parent ∈ paths.map (·.pathId)) :
    (Components pathIds (dependencyGraph pairs) (conservativeGroups pathIds pairs) ∧
      ∀ pairs', pairs.Perm pairs' →
        conservativeGroups pathIds pairs' = conservativeGroups pathIds pairs) ∧
    (∀ parent, UnionFind.Reached pathIds pathIds.length parent → ∀ item ∈ pathIds,
      let found := UnionFind.find pathIds.length parent item
      found.1 found.2 = found.2 ∧
        ∀ steps ≥ pathIds.length, UnionFind.find steps parent item = found) ∧
    ((validateParentGraph recursionLimit paths = .ok () ↔ Acyclic paths) ↔
      (Acyclic paths → Shallow recursionLimit paths)) := by
  have hcomponents := conservativeGroups_components hpathIds hpairs
  refine ⟨⟨hcomponents, fun pairs' hperm => ?_⟩, fun parent hreached item hitem => ?_, ?_⟩
  · have hpairs' : ∀ pair ∈ pairs', pair.leftPathId ∈ pathIds ∧ pair.rightPathId ∈ pathIds :=
      fun pair hpair => hpairs pair (hperm.mem_iff.mpr hpair)
    have hcomponents' := conservativeGroups_components hpathIds hpairs'
    rw [← dependencyGraph_perm hperm] at hcomponents'
    exact hcomponents'.unique hcomponents
  · have hforest := hreached.forest (le_refl _)
    have hrank := UnionFind.rank_le_length pathIds item
    obtain ⟨hfound, -, -, hkept⟩ := hforest.find hitem hrank
    refine ⟨?_, fun steps hsteps => hforest.find_stable hitem (hrank.trans hsteps) hrank⟩
    obtain ⟨root, -, hroot⟩ := hforest.exists_root hitem
    have hsame := hkept hitem hroot
    rw [← hroot.unique (hforest.find hitem hrank).2.2.1]
    exact hsame.2
  · constructor
    · intro hiff hacyclic
      exact (validateParentGraph_iff hids hacyclic hknown).mp (hiff.mpr hacyclic)
    · intro hshallow
      refine ⟨fun h pathId => not_isAncestor_self hids h pathId, fun hacyclic => ?_⟩
      exact (validateParentGraph_iff hids hacyclic hknown).mpr (hshallow hacyclic)

end

/-! ## A long chain -/

/-- The name of a link of a chain: the longer it is, the further up. -/
def linkName (i : ℕ) : String := String.ofList (List.replicate (i + 1) 'a')

/-- A link of a chain, with its parent. -/
def linkPath (i : ℕ) (parentPathIds : List String) : EvidencePath :=
  { pathId := linkName i, claimId := "claim", actorId := "actor", stance := .supports
    outputSha256 := String.ofList (List.replicate 64 'a'), evidenceRefs := []
    rootSourceRefs := [], parentPathIds, transformationLineageSha256s := [], contextSha256 := none
    method := "unspecified" }

/-- A chain of so many parents above a path. -/
def linkPaths (parents : ℕ) : List EvidencePath :=
  (List.range parents).map (fun i => linkPath i [linkName (i + 1)]) ++ [linkPath parents []]

section

variable {parents i j : ℕ}

theorem linkName_inj : linkName i = linkName j ↔ i = j := by
  refine ⟨fun h => ?_, fun h => h ▸ rfl⟩
  have hlength := congrArg String.length h
  simpa [linkName] using hlength

theorem linkPaths_ids : (linkPaths parents).map (·.pathId) = (List.range (parents + 1)).map linkName := by
  simp [linkPaths, linkPath, List.range_succ]

theorem linkPaths_nodup : ((linkPaths parents).map (·.pathId)).Nodup := by
  rw [linkPaths_ids]
  exact List.nodup_range.map fun _ _ h => linkName_inj.mp h

theorem isParent_linkPaths {parent child : String} (h : IsParent (linkPaths parents) parent child) :
    ∃ i < parents, child = linkName i ∧ parent = linkName (i + 1) := by
  obtain ⟨path, hpath, hchild, hparent⟩ := h
  rcases List.mem_append.mp hpath with hpath | hpath
  · obtain ⟨i, hi, rfl⟩ := List.mem_map.mp hpath
    exact ⟨i, List.mem_range.mp hi, hchild.symm, List.mem_singleton.mp hparent⟩
  · rw [List.mem_singleton.mp hpath] at hparent
    simp [linkPath] at hparent

theorem linkPaths_known : ∀ path ∈ linkPaths parents, ∀ parent ∈ path.parentPathIds,
    parent ∈ (linkPaths parents).map (·.pathId) := by
  intro path hpath parent hparent
  obtain ⟨i, hi, -, rfl⟩ := isParent_linkPaths ⟨path, hpath, rfl, hparent⟩
  rw [linkPaths_ids]
  exact List.mem_map_of_mem (List.mem_range.mpr (by omega))

theorem linkPaths_acyclic : Acyclic (linkPaths parents) := by
  have hlonger : ∀ {a b}, IsAncestor (linkPaths parents) a b → b.length < a.length := by
    intro a b h
    induction h with
    | single hparent =>
        obtain ⟨i, -, rfl, rfl⟩ := isParent_linkPaths hparent
        simp [linkName]
    | tail _ hparent ih =>
        obtain ⟨i, -, rfl, rfl⟩ := isParent_linkPaths hparent
        simp only [linkName, String.length_ofList, List.length_replicate] at ih ⊢
        omega
  intro pathId h
  exact lt_irrefl _ (hlonger h)

theorem linkName_zero_le : linkName 0 ≤ linkName i := by
  rw [String.le_iff_toList_le]
  have hnot : ¬ 'a' :: List.replicate i 'a' < ['a'] := by
    rw [List.cons_lt_cons_iff]
    simp
  simpa [linkName, List.replicate_succ] using not_lt.mp hnot

/-- From a link the search goes up the whole chain above it. The induction is on the links
above. -/
theorem descends_linkPaths {n : ℕ} (h : i + n = parents) :
    Descends (linkPaths parents) [] (linkName i) (n + 1) := by
  induction n generalizing i with
  | zero => exact .single
  | succ n ih =>
      have hpath : linkPath i [linkName (i + 1)] ∈ linkPaths parents :=
        List.mem_append_left _ (List.mem_map.mpr ⟨i, List.mem_range.mpr (by omega), rfl⟩)
      have hfresh : ¬ Above (linkPaths parents) [] (linkPath i [linkName (i + 1)]).pathId := by
        simp [Above]
      exact .parent hfresh hpath (List.nil_append [linkName (i + 1)]).symm (ih (by omega))

theorem not_shallow_linkPaths : ¬ Shallow parents (linkPaths parents) := by
  intro hshallow
  have hmem : linkName 0 ∈ sortedSet ((linkPaths parents).map (·.pathId)) := by
    rw [mem_sortedSet, linkPaths_ids]
    exact List.mem_map_of_mem (List.mem_range.mpr (by omega))
  have hsorted : (sortedSet ((linkPaths parents).map (·.pathId))).Pairwise (· < ·) :=
    pairwise_lt_of_nodup (List.nodup_dedup _)
  obtain ⟨rest, hrest⟩ := eq_cons_of_least hsorted hmem fun name hname => by
    rw [mem_sortedSet, linkPaths_ids] at hname
    obtain ⟨i, -, rfl⟩ := List.mem_map.mp hname
    exact linkName_zero_le
  have hle := hshallow [] (linkName 0) rest hrest (parents + 1) (descends_linkPaths (by omega))
  omega

end

/-- COUNTEREXAMPLE: A chain of a thousand parents above a path is acyclic, and it is refused where
calls are a thousand deep at most. -/
theorem long_chain_refused :
    ¬ (validateParentGraph 1000 (linkPaths 1000) = .ok () ↔ Acyclic (linkPaths 1000)) := by
  intro h
  have haccepted := h.mpr linkPaths_acyclic
  exact not_shallow_linkPaths
    ((validateParentGraph_iff linkPaths_nodup linkPaths_acyclic linkPaths_known).mp haccepted)

/-- A pair of which nothing is known. -/
def unknownPair (leftPathId rightPathId : String) : PairwiseRelation :=
  { leftPathId, rightPathId, relation := .unknown, basisRefs := []
    reasons := ["independence_not_demonstrated"], sharedContext := false }

/-- WITNESS: Three paths of which two are not known to be independent, and a parent with its child. -/
theorem accepts_acyclic_links :
    Components ["a", "b", "c"] (dependencyGraph [unknownPair "a" "c"])
        (conservativeGroups ["a", "b", "c"] [unknownPair "a" "c"]) ∧
      (validateParentGraph 1000 (linkPaths 1) = .ok () ↔ Acyclic (linkPaths 1)) := by
  have haccepted : validateParentGraph 1000 (linkPaths 1) = .ok () := by decide +kernel
  have hmain := @accepts_acyclic_iff (linkPaths 1) 1000 ["a", "b", "c"] [unknownPair "a" "c"]
    (by decide) (by simp [unknownPair]) linkPaths_nodup linkPaths_known
  refine ⟨hmain.1.1, hmain.2.2.mpr fun hacyclic => ?_⟩
  exact (validateParentGraph_iff linkPaths_nodup hacyclic linkPaths_known).mp haccepted

end DeliberationEvidence

end PhiOS
