import PhiOS.Library.BreadthFirst
import PhiOS.Library.Dict
import PhiOS.Model.GeometricReasoning

/-!
# Searches over equivalence classes

`search` is a breadth-first search over the classes that the digests of the keys tell apart. Where
the classes are a bisimulation its loop keeps the invariant of such searches for the representatives,
the states whose identifiers are in the dictionary; so what it finds is a shortest path of the full
graph, and where it is exhausted the full graph has none.
-/

set_option autoImplicit false

namespace PhiOS

open BreadthFirst KeyOrder

namespace GeometricReasoner

variable {σ : Type}

/-! ## The full state graph -/

/-- `target` is in the expansion of `source`. -/
def Neighbor (expand : σ → Except PyError (List σ)) (source target : σ) : Prop :=
  ∃ neighbors, expand source = .ok neighbors ∧ target ∈ neighbors

/-- No constraint fails. -/
def Admissible (reasoner : GeometricReasoner σ) (state : σ) : Prop :=
  reasoner.constraintFailures state = .ok []

/-- States of one class are both admissible or both not, both goals or both not, and every admissible
neighbour of one has a neighbour of the other in its class. Neighbours that are pruned need no
class. -/
structure ClassesBisimilar (sha256 : Json → String) (reasoner : GeometricReasoner σ)
    (expand : σ → Except PyError (List σ)) (goal : σ → Except PyError Bool) : Prop where
  admissible : ∀ {digest s t}, classDigest sha256 reasoner s = .ok digest →
    classDigest sha256 reasoner t = .ok digest → (reasoner.Admissible s ↔ reasoner.Admissible t)
  goal : ∀ {digest s t}, classDigest sha256 reasoner s = .ok digest →
    classDigest sha256 reasoner t = .ok digest → (goal s = .ok true ↔ goal t = .ok true)
  neighbor : ∀ {digest s t s'}, classDigest sha256 reasoner s = .ok digest →
    classDigest sha256 reasoner t = .ok digest → Neighbor expand s s' → reasoner.Admissible s' →
    ∃ digest' t', Neighbor expand t t' ∧ classDigest sha256 reasoner s' = .ok digest' ∧
      classDigest sha256 reasoner t' = .ok digest'

/-- A path of admissible states from a start to a goal, each state in the expansion of the one
before. -/
structure SolutionPath (reasoner : GeometricReasoner σ) (starts : List σ)
    (expand : σ → Except PyError (List σ)) (goal : σ → Except PyError Bool) (states : List σ) :
    Prop where
  start : ∃ start, states.head? = some start ∧ start ∈ starts
  admissible : ∀ state ∈ states, reasoner.Admissible state
  steps : states.IsChain (Neighbor expand)
  goal : ∃ last, states.getLast? = some last ∧ goal last = .ok true

/-- The state graph with the classes. -/
def graph (sha256 : Json → String) (reasoner : GeometricReasoner σ) (starts : List σ)
    (expand : σ → Except PyError (List σ)) (goal : σ → Except PyError Bool) :
    BreadthFirst.Graph σ String where
  start := fun state => state ∈ starts
  admissible := reasoner.Admissible
  goal := fun state => goal state = .ok true
  step := Neighbor expand
  cls := fun state => (classDigest sha256 reasoner state).toOption

section Graph

variable {sha256 : Json → String} {reasoner : GeometricReasoner σ} {starts : List σ}
  {expand : σ → Except PyError (List σ)} {goal : σ → Except PyError Bool}

theorem toOption_eq_some {α : Type} {result : Except PyError α} {value : α} :
    result.toOption = some value ↔ result = .ok value := by
  cases result <;> simp [Except.toOption]

theorem ClassesBisimilar.bisimulation (h : ClassesBisimilar sha256 reasoner expand goal) :
    Bisimulation (graph sha256 reasoner starts expand goal) := by
  constructor
  · intro digest s t hs ht
    exact (h.goal (toOption_eq_some.mp hs) (toOption_eq_some.mp ht)).mp
  · intro digest s t s' hs ht hstep hadmissible
    obtain ⟨digest', t', hstep', hs', ht'⟩ :=
      h.neighbor (toOption_eq_some.mp hs) (toOption_eq_some.mp ht) hstep hadmissible
    exact ⟨digest', t', hstep', (h.admissible hs' ht').mp hadmissible, toOption_eq_some.mpr hs',
      toOption_eq_some.mpr ht'⟩

theorem solutionPath_iff {states : List σ} :
    SolutionPath reasoner starts expand goal states ↔
      ∃ last, Path (graph sha256 reasoner starts expand goal) states last ∧ goal last = .ok true := by
  constructor
  · rintro ⟨hstart, hadmissible, hsteps, last, hlast, hgoal⟩
    exact ⟨last, path_iff.mpr ⟨hstart, hadmissible, hsteps, hlast⟩, hgoal⟩
  · rintro ⟨last, hpath, hgoal⟩
    obtain ⟨hstart, hadmissible, hsteps, hlast⟩ := path_iff.mp hpath
    exact ⟨hstart, hadmissible, hsteps, last, hlast, hgoal⟩

end Graph

/-! ## Sorting -/

/-- Sorting keeps the states. -/
theorem mem_of_sortById {reasoner : GeometricReasoner σ} {states sorted : List σ}
    (h : reasoner.sortById states = .ok sorted) (state : σ) : state ∈ sorted ↔ state ∈ states := by
  unfold sortById at h
  obtain ⟨named, hnamed, h⟩ := bind_eq_ok.mp h
  obtain rfl := Except.ok.inj h
  have hstep : ∀ {s : σ} {entry : String × σ},
      (do return (← reasoner.requireStateId s, s)) = Except.ok (ε := PyError) entry → entry.2 = s := by
    intro s entry hentry
    obtain ⟨id, -, hentry⟩ := bind_eq_ok.mp hentry
    exact congrArg Prod.snd (Except.ok.inj hentry).symm
  obtain ⟨hto, hfrom⟩ := mem_of_mapM hnamed
  constructor
  · intro hmem
    obtain ⟨entry, hentry, rfl⟩ := List.mem_map.mp hmem
    obtain ⟨s, hs, hok⟩ := hfrom entry ((List.mem_insertionSort _).mp hentry)
    rw [hstep hok]
    exact hs
  · intro hmem
    obtain ⟨entry, hentry, hok⟩ := hto state hmem
    exact List.mem_map.mpr ⟨entry, (List.mem_insertionSort _).mpr hentry, hstep hok⟩

/-! ## The dictionary of the visited classes -/

/-- The dictionary holds the identifiers of the representatives. -/
structure Records (reasoner : GeometricReasoner σ) (V : Visits σ String)
    (visited : List (String × String × Option String)) : Prop where
  entry : ∀ {digest id parent}, visited.lookup digest = some (id, parent) →
    ∃ s, V.state digest = some s ∧ reasoner.requireStateId s = .ok id ∧ V.parent digest = parent
  state : ∀ {digest s}, V.state digest = some s →
    ∃ id, visited.lookup digest = some (id, V.parent digest)
  nodup : (visited.map (·.1)).Nodup
  depth : ∀ {digest s}, V.state digest = some s → V.depth digest < visited.length

section Records

variable {reasoner : GeometricReasoner σ} {V : Visits σ String}
  {visited : List (String × String × Option String)} {digest : String}

theorem Records.state_eq_none (h : Records reasoner V visited) (hnew : visited.lookup digest = none) :
    V.state digest = none := by
  cases hstate : V.state digest with
  | none => rfl
  | some s =>
      obtain ⟨id, hid⟩ := h.state hstate
      rw [hnew] at hid
      cases hid

/-- A class is added. -/
theorem Records.visit (h : Records reasoner V visited) (hnew : visited.lookup digest = none)
    {state : σ} {id : String} {parent : Option String} (hid : reasoner.requireStateId state = .ok id)
    (hbelow : V.below parent ≤ visited.length) :
    Records reasoner (V.visit digest state parent) (visited ++ [(digest, id, parent)]) := by
  have hold : ∀ {other}, other ≠ digest →
      (visited ++ [(digest, id, parent)]).lookup other = visited.lookup other := by
    intro other hother
    rw [List.lookup_append, lookup_cons_of_ne hother]
    cases visited.lookup other <;> rfl
  have hself : (visited ++ [(digest, id, parent)]).lookup digest = some (id, parent) := by
    rw [List.lookup_append, hnew, lookup_cons_self]
    rfl
  have hparent : (V.visit digest state parent).parent digest = parent := Function.update_self ..
  have hlength : (visited ++ [(digest, id, parent)]).length = visited.length + 1 := by simp
  constructor
  · intro other id' parent' hentry
    by_cases hother : other = digest
    · rw [hother, hself] at hentry
      obtain ⟨rfl, rfl⟩ := Prod.mk.inj (Option.some.inj hentry)
      rw [hother]
      exact ⟨state, visit_state_self, hid, hparent⟩
    · rw [hold hother] at hentry
      obtain ⟨s, hs, hids, hparents⟩ := h.entry hentry
      refine ⟨s, (visit_state_of_ne hother).trans hs, hids, ?_⟩
      exact (Function.update_of_ne hother ..).trans hparents
  · intro other s hs
    by_cases hother : other = digest
    · rw [hother, hself, hparent]
      exact ⟨id, rfl⟩
    · obtain ⟨id', hid'⟩ := h.state ((visit_state_of_ne hother).symm.trans hs)
      refine ⟨id', ?_⟩
      rw [hold hother, hid']
      exact congrArg (fun p => some (id', p)) (Function.update_of_ne hother ..).symm
  · rw [List.map_append, List.nodup_append]
    refine ⟨h.nodup, List.nodup_singleton _, ?_⟩
    intro a ha b hb hab
    obtain rfl : b = digest := List.mem_singleton.mp hb
    obtain ⟨entry, hentry, rfl⟩ := List.mem_map.mp ha
    have hfound := lookup_of_mem h.nodup hentry
    rw [hab, hnew] at hfound
    cases hfound
  · intro other s hs
    rw [hlength]
    by_cases hother : other = digest
    · have hdepth : (V.visit digest state parent).depth digest = V.below parent :=
        Function.update_self ..
      rw [hother, hdepth]
      omega
    · have hdepth : (V.visit digest state parent).depth other = V.depth other :=
        Function.update_of_ne hother ..
      have hlt := h.depth ((visit_state_of_ne hother).symm.trans hs)
      omega

/-- Following the parents gives the identifiers of the representatives, the last first.
The induction is on the way back.
SOURCE: core/geometric_reasoning.py:347-357 -/
theorem Records.pathIds_eq (h : Records reasoner V visited) {states : List σ}
    (hback : Back V states digest) {rounds : ℕ} (hrounds : states.length ≤ rounds) :
    ∃ ids, pathIds visited rounds (some digest) = .ok ids ∧
      states.mapM reasoner.requireStateId = .ok ids.reverse := by
  induction hback generalizing rounds with
  | @root digest s hs hparent =>
      obtain ⟨id, hentry⟩ := h.state hs
      obtain ⟨s', hs', hid, -⟩ := h.entry hentry
      obtain rfl : s = s' := Option.some.inj (hs.symm.trans hs')
      obtain ⟨rounds, rfl⟩ : ∃ r, rounds = r + 1 := Nat.exists_eq_succ_of_ne_zero (by
        rw [List.length_singleton] at hrounds
        omega)
      refine ⟨[id], ?_, ?_⟩
      · unfold GeometricReasoner.pathIds
        rw [hentry, hparent]
        cases rounds <;> rfl
      · exact bind_eq_ok.mpr ⟨id, hid, rfl⟩
  | @child states parent digest s before hs hparent ih =>
      obtain ⟨id, hentry⟩ := h.state hs
      obtain ⟨s', hs', hid, -⟩ := h.entry hentry
      obtain rfl : s = s' := Option.some.inj (hs.symm.trans hs')
      rw [List.length_append, List.length_singleton] at hrounds
      obtain ⟨rounds, rfl⟩ : ∃ r, rounds = r + 1 := Nat.exists_eq_succ_of_ne_zero (by omega)
      have hshort : states.length ≤ rounds := by omega
      obtain ⟨ids, hids, hstates⟩ := ih hshort
      refine ⟨id :: ids, ?_, ?_⟩
      · unfold GeometricReasoner.pathIds
        rw [hentry, hparent]
        dsimp only
        rw [hids]
        rfl
      · rw [List.mapM_append, hstates, List.reverse_cons]
        have hlast : [s].mapM reasoner.requireStateId = .ok [id] := bind_eq_ok.mpr ⟨id, hid, rfl⟩
        rw [hlast]
        rfl

end Records

/-! ## The loop -/

section Loop

variable {sha256 : Json → String} {reasoner : GeometricReasoner σ} {starts : List σ}
  {expand : σ → Except PyError (List σ)} {goal : σ → Except PyError Bool} {maxClasses : ℤ}
  {search search' : QuotientSearch σ} {V : Visits σ String} {state : σ} {parent : Option String}
  {queue : List (σ × Option String)}

/-- What holds before each round. -/
structure LoopInv (sha256 : Json → String) (reasoner : GeometricReasoner σ) (starts : List σ)
    (expand : σ → Except PyError (List σ)) (goal : σ → Except PyError Bool) (maxClasses : ℤ)
    (search : QuotientSearch σ) (V : Visits σ String) : Prop where
  inv : Inv (graph sha256 reasoner starts expand goal) V search.queue
  records : Records reasoner V search.visited
  goals : ∀ {digest s}, V.state digest = some s → goal s = .ok false
  room : search.visited.length < maxClasses

theorem LoopInv.below_le (h : LoopInv sha256 reasoner starts expand goal maxClasses search V)
    {entry : σ × Option String} (hentry : entry ∈ search.queue) :
    V.below entry.2 ≤ search.visited.length := by
  have hcomes := h.inv.queued entry hentry
  cases hp : entry.2 with
  | none => exact Nat.zero_le _
  | some digest =>
      rw [hp] at hcomes
      obtain ⟨r, hr, -⟩ := hcomes
      exact h.records.depth hr

/-- The invariant holds before the loop. -/
theorem loopInv_start {sorted : List σ} (hsorted : reasoner.sortById starts = .ok sorted)
    (hmax : 1 ≤ maxClasses) :
    LoopInv sha256 reasoner starts expand goal maxClasses
      { queue := sorted.map fun state => (state, none) } ⟨fun _ => none, fun _ => none, fun _ => 0⟩ := by
  refine ⟨inv_start (fun s => (mem_of_sortById hsorted s).symm) fun _ => rfl, ?_, ?_, ?_⟩
  · constructor
    · intro digest id parent h
      cases h
    · intro digest s h
      cases h
    · exact List.nodup_nil
    · intro digest s h
      cases h
  · intro digest s hs
    cases hs
  · exact hmax

/-- A round that goes on keeps the invariant.
SOURCE: core/geometric_reasoning.py:306-345 -/
theorem LoopInv.next (h : LoopInv sha256 reasoner starts expand goal maxClasses search V)
    (hqueue : search.queue = (state, parent) :: queue)
    (hround : round sha256 reasoner expand goal maxClasses search state parent queue =
      .ok (.next search')) :
    ∃ V', LoopInv sha256 reasoner starts expand goal maxClasses search' V' := by
  have hinv := h.inv
  rw [hqueue] at hinv
  rcases round_cases hround with ⟨next, hnext, hq, hv, hpassed⟩ |
    ⟨id, digest, hid, hadmissible, hdigest, hnew, next, hv, hends⟩
  · obtain rfl : search' = next := QuotientRound.next.inj hnext
    refine ⟨V, ?_, by rw [hv]; exact h.records, h.goals, by rw [hv]; exact h.room⟩
    rw [hq]
    refine hinv.drop fun hs => ?_
    obtain ⟨digest, hdigest, hseen⟩ := hpassed hs
    obtain ⟨⟨id, parent'⟩, hentry⟩ := Option.isSome_iff_exists.mp hseen
    obtain ⟨r, hr, -⟩ := h.records.entry hentry
    exact ⟨digest, r, toOption_eq_some.mpr hdigest, hr⟩
  · rcases hends with ⟨-, hdone⟩ | ⟨-, -, hdone⟩ |
      ⟨hgoal, hroom, neighbors, sorted, hexpand, hsorted, hq, hnext⟩
    · cases hdone
    · cases hdone
    · obtain rfl : search' = next := QuotientRound.next.inj hnext
      have hnone := h.records.state_eq_none hnew
      have hbelow := h.below_le (show (state, parent) ∈ search.queue by rw [hqueue]; simp)
      refine ⟨V.visit digest state parent, ?_, ?_, ?_, hroom⟩
      · rw [hq]
        refine hinv.visit (toOption_eq_some.mpr hdigest) hadmissible hnone fun t => ?_
        rw [mem_of_sortById hsorted]
        constructor
        · rintro ⟨neighbors', hexpand', ht⟩
          obtain rfl : neighbors = neighbors' := Except.ok.inj (hexpand.symm.trans hexpand')
          exact ht
        · exact fun ht => ⟨neighbors, hexpand, ht⟩
      · rw [hv]
        exact h.records.visit hnew hid hbelow
      · intro other s hs
        by_cases hother : other = digest
        · rw [hother, visit_state_self] at hs
          rw [← Option.some.inj hs]
          exact hgoal
        · exact h.goals ((visit_state_of_ne hother).symm.trans hs)

/-- How the loop may end. -/
inductive Ends (sha256 : Json → String) (reasoner : GeometricReasoner σ) (starts : List σ)
    (expand : σ → Except PyError (List σ)) (goal : σ → Except PyError Bool) (maxClasses : ℤ)
    (result : QuotientSearchEnd σ) : Prop
  | exhausted (status : result.status = "exhausted_under_declared_geometry")
      (solution : result.solutionClass = none)
      (unreachable : ∀ states, ¬ SolutionPath reasoner starts expand goal states)
  | found (status : result.status = "found") {digest : String} {V : Visits σ String}
      {states : List σ} (solution : result.solutionClass = some digest)
      (records : Records reasoner V result.search.visited) (back : Back V states digest)
      (path : SolutionPath reasoner starts expand goal states)
      (shortest : ∀ other, SolutionPath reasoner starts expand goal other →
        states.length ≤ other.length)
      (short : states.length ≤ result.search.visited.length)
  | limit (status : result.status = "limit_reached") (solution : result.solutionClass = none)
      (count : result.search.visited.length = maxClasses)
      (distinct : (result.search.visited.map (·.1)).Nodup)
      (goals : ∀ entry ∈ result.search.visited, ∃ s, reasoner.requireStateId s = .ok entry.2.1 ∧
        reasoner.Admissible s ∧ classDigest sha256 reasoner s = .ok entry.1 ∧
        ∀ t, classDigest sha256 reasoner t = .ok entry.1 → goal t ≠ .ok true)

/-- A round that stops ends the search as it should.
SOURCE: core/geometric_reasoning.py:317-336 -/
theorem LoopInv.done (h : LoopInv sha256 reasoner starts expand goal maxClasses search V)
    (hbisim : ClassesBisimilar sha256 reasoner expand goal) {result : QuotientSearchEnd σ}
    (hqueue : search.queue = (state, parent) :: queue)
    (hround : round sha256 reasoner expand goal maxClasses search state parent queue =
      .ok (.done result)) :
    Ends sha256 reasoner starts expand goal maxClasses result := by
  have hinv := h.inv
  rw [hqueue] at hinv
  rcases round_cases hround with ⟨next, hnext, -⟩ |
    ⟨id, digest, hid, hadmissible, hdigest, hnew, last, hv, hends⟩
  · cases hnext
  have hnone := h.records.state_eq_none hnew
  have hbelow := h.below_le (show (state, parent) ∈ search.queue by rw [hqueue]; simp)
  have hrecords : Records reasoner (V.visit digest state parent) last.visited := by
    rw [hv]
    exact h.records.visit hnew hid hbelow
  have hreps : ∀ {other s}, (V.visit digest state parent).state other = some s →
      Represents (graph sha256 reasoner starts expand goal) (V.visit digest state parent) other s :=
    fun hs => hinv.represents_visit (toOption_eq_some.mpr hdigest) hadmissible hnone hs
  have hlength : last.visited.length = search.visited.length + 1 := by
    rw [hv, List.length_append, List.length_singleton]
  rcases hends with ⟨hgoal, hdone⟩ | ⟨hgoal, hlimit, hdone⟩ | ⟨-, -, _, _, -, -, -, hnext⟩
  · obtain rfl := QuotientRound.done.inj hdone
    obtain ⟨states, hback, hpath, hstates⟩ := back_of_represents hreps visit_state_self
    have hdepth : (V.visit digest state parent).depth digest = V.below parent :=
      Function.update_self ..
    rw [hdepth] at hstates
    refine .found rfl rfl hrecords hback (solutionPath_iff.mpr ⟨state, hpath, hgoal⟩) ?_ ?_
    · intro other hother
      obtain ⟨t, hpath', hgoal'⟩ := solutionPath_iff.mp hother
      rw [hstates]
      refine hinv.shortest hbisim.bisimulation (fun hs hg => ?_) hpath' hgoal'
      have hfalse := (h.goals hs).symm.trans hg
      exact absurd (Except.ok.inj hfalse) (by decide)
    · rw [hlength, hstates]
      exact Nat.succ_le_succ hbelow
  · obtain rfl := QuotientRound.done.inj hdone
    refine .limit rfl rfl ?_ hrecords.nodup ?_
    · have hroom := h.room
      dsimp only
      omega
    · rintro ⟨other, id', parent'⟩ hentry
      obtain ⟨s, hs, hids, -⟩ := hrecords.entry (lookup_of_mem hrecords.nodup hentry)
      have hrep := hreps hs
      have hclass := toOption_eq_some.mp hrep.cls
      refine ⟨s, hids, hrep.admissible, hclass, ?_⟩
      have hfalse : goal s = .ok false := by
        by_cases hother : other = digest
        · rw [hother, visit_state_self] at hs
          rw [← Option.some.inj hs]
          exact hgoal
        · exact h.goals ((visit_state_of_ne hother).symm.trans hs)
      intro t ht htrue
      have hboth := hfalse.symm.trans ((hbisim.goal ht hclass).mp htrue)
      exact absurd (Except.ok.inj hboth) (by decide)
  · cases hnext

/-- The loop ends as it should. The induction is on its rounds. -/
theorem searchLoop_spec (h : LoopInv sha256 reasoner starts expand goal maxClasses search V)
    (hbisim : ClassesBisimilar sha256 reasoner expand goal) {result : QuotientSearchEnd σ}
    (hloop : searchLoop sha256 reasoner expand goal maxClasses search = .ok result) :
    Ends sha256 reasoner starts expand goal maxClasses result := by
  induction search using searchLoop.induct sha256 reasoner expand goal maxClasses generalizing V with
  | case1 search hqueue =>
      rw [searchLoop_nil hqueue] at hloop
      obtain rfl := Except.ok.inj hloop
      refine .exhausted rfl rfl fun states hstates => ?_
      obtain ⟨last, hpath, hgoal⟩ := solutionPath_iff.mp hstates
      have hinv := h.inv
      rw [hqueue] at hinv
      refine hinv.unreachable hbisim.bisimulation (fun hs hg => ?_) hpath hgoal
      have hfalse := (h.goals hs).symm.trans hg
      exact absurd (Except.ok.inj hfalse) (by decide)
  | case2 search state parentClass queue hqueue e hround =>
      rw [searchLoop_cons hqueue, hround] at hloop
      cases hloop
  | case3 search state parentClass queue hqueue result' hround =>
      rw [searchLoop_cons hqueue, hround] at hloop
      obtain rfl := Except.ok.inj hloop
      exact h.done hbisim hqueue hround
  | case4 search state parentClass queue hqueue search' hround ih =>
      rw [searchLoop_cons hqueue, hround] at hloop
      obtain ⟨V', h'⟩ := h.next hqueue hround
      exact ih h' hloop

end Loop

/-! ## The search -/

section Search

variable {sha256 : Json → String} {reasoner : GeometricReasoner σ} {starts : List σ}
  {expand : σ → Except PyError (List σ)} {goal : σ → Except PyError Bool} {maxClasses : ℤ}

/-- The path is read off without running out of rounds. -/
theorem Ends.pathIds_eq {result : QuotientSearchEnd σ}
    (h : Ends sha256 reasoner starts expand goal maxClasses result) :
    ∃ ids, ∀ rounds, result.search.visited.length ≤ rounds →
      pathIds result.search.visited rounds result.solutionClass = .ok ids := by
  have hnone : result.solutionClass = none →
      ∃ ids, ∀ rounds, result.search.visited.length ≤ rounds →
        pathIds result.search.visited rounds result.solutionClass = .ok ids := by
    intro hsolution
    refine ⟨[], fun rounds _ => ?_⟩
    rw [hsolution]
    cases rounds <;> rfl
  cases h with
  | exhausted status solution unreachable => exact hnone solution
  | limit status solution count distinct goals => exact hnone solution
  | found status solution records back path shortest short =>
      obtain ⟨ids, -, hstates⟩ := records.pathIds_eq back (le_refl _)
      refine ⟨ids, fun rounds hrounds => ?_⟩
      obtain ⟨ids', hids', hstates'⟩ := records.pathIds_eq back (short.trans hrounds)
      have hsame := Except.ok.inj (hstates.symm.trans hstates')
      rw [solution, hids', List.reverse_inj.mp hsame]

/-- What the receipt says of how the loop has ended. -/
theorem search_ends (hbisim : ClassesBisimilar sha256 reasoner expand goal)
    {receipt : SearchReceipt}
    (h : search sha256 reasoner starts expand goal maxClasses = .ok receipt) :
    ∃ sorted result ids, reasoner.sortById starts = .ok sorted ∧
      searchLoop sha256 reasoner expand goal maxClasses
        { queue := sorted.map fun state => (state, none) } = .ok result ∧
      Ends sha256 reasoner starts expand goal maxClasses result ∧
      pathIds result.search.visited result.search.visited.length result.solutionClass = .ok ids ∧
      receipt.status = result.status ∧ receipt.representativePathIds = ids.reverse ∧
      receipt.quotientClassesVisited = result.search.visited.length := by
  unfold search at h
  obtain ⟨_, -, h⟩ := bind_eq_ok.mp h
  obtain ⟨_, hmax, h⟩ := bind_eq_ok.mp h
  obtain ⟨sorted, hsorted, h⟩ := bind_eq_ok.mp h
  obtain ⟨result, hloop, h⟩ := bind_eq_ok.mp h
  obtain ⟨ids, hids, h⟩ := bind_eq_ok.mp h
  obtain rfl := Except.ok.inj h
  have hends := searchLoop_spec (loopInv_start hsorted (not_lt.mp (raiseIf_eq_ok.mp hmax))) hbisim hloop
  exact ⟨sorted, result, ids, hsorted, hloop, hends, hids, rfl, rfl, rfl⟩

/-- MAIN: **Quotient search is sound and complete for a bisimulation.** The search is a total
function, and the path is read off the visited classes in no more rounds than there are classes. What
is found are the identifiers of a path of admissible states from a start to a goal, and no such path
is shorter; where the search is exhausted there is none; and where the limit is reached exactly so
many classes were visited, and no state of them is a goal. -/
theorem search_sound_and_complete (hbisim : ClassesBisimilar sha256 reasoner expand goal) :
    (∀ sorted result, reasoner.sortById starts = .ok sorted → 1 ≤ maxClasses →
      searchLoop sha256 reasoner expand goal maxClasses
        { queue := sorted.map fun state => (state, none) } = .ok result →
      ∃ ids, ∀ rounds, result.search.visited.length ≤ rounds →
        pathIds result.search.visited rounds result.solutionClass = .ok ids) ∧
    ∀ receipt, search sha256 reasoner starts expand goal maxClasses = .ok receipt →
      receipt.status ∈ ["found", "exhausted_under_declared_geometry", "limit_reached"] ∧
      (receipt.status = "found" → ∃ states, SolutionPath reasoner starts expand goal states ∧
        states.mapM reasoner.requireStateId = .ok receipt.representativePathIds ∧
        ∀ other, SolutionPath reasoner starts expand goal other → states.length ≤ other.length) ∧
      (receipt.status = "exhausted_under_declared_geometry" →
        ∀ states, ¬ SolutionPath reasoner starts expand goal states) ∧
      (receipt.status = "limit_reached" → ∃ sorted result,
        reasoner.sortById starts = .ok sorted ∧
        searchLoop sha256 reasoner expand goal maxClasses
          { queue := sorted.map fun state => (state, none) } = .ok result ∧
        receipt.quotientClassesVisited = result.search.visited.length ∧
        (result.search.visited.map (·.1)).Nodup ∧ result.search.visited.length = maxClasses ∧
        ∀ digest ∈ result.search.visited.map (·.1),
          (∃ s, reasoner.Admissible s ∧ classDigest sha256 reasoner s = .ok digest) ∧
          ∀ t, classDigest sha256 reasoner t = .ok digest → goal t ≠ .ok true) := by
  constructor
  · intro sorted result hsorted hmax hloop
    exact (searchLoop_spec (loopInv_start hsorted hmax) hbisim hloop).pathIds_eq
  · intro receipt h
    obtain ⟨sorted, result, ids, hsorted, hloop, hends, hids, hstatus, hpath, hcount⟩ :=
      search_ends hbisim h
    cases hends with
    | exhausted status solution unreachable =>
        rw [hstatus, status]
        refine ⟨by decide, fun h => absurd h (by decide), fun _ => unreachable,
          fun h => absurd h (by decide)⟩
    | found status solution records back path shortest short =>
        rw [hstatus, status]
        refine ⟨by decide, fun _ => ?_, fun h => absurd h (by decide), fun h => absurd h (by decide)⟩
        obtain ⟨ids', hids', hstates⟩ := records.pathIds_eq back short
        rw [solution] at hids
        obtain rfl : ids = ids' := Except.ok.inj (hids.symm.trans hids')
        exact ⟨_, path, by rw [hpath]; exact hstates, shortest⟩
    | limit status solution count distinct goals =>
        rw [hstatus, status]
        refine ⟨by decide, fun h => absurd h (by decide), fun h => absurd h (by decide), fun _ => ?_⟩
        refine ⟨sorted, result, hsorted, hloop, hcount, distinct, count, ?_⟩
        intro digest hdigest
        obtain ⟨entry, hentry, rfl⟩ := List.mem_map.mp hdigest
        obtain ⟨s, -, hadmissible, hclass, hgoals⟩ := goals entry hentry
        exact ⟨⟨s, hadmissible, hclass⟩, hgoals⟩

end Search

/-! ## An infinite graph with three classes -/

/-- The natural numbers, told apart by what they leave over after division by three. -/
def residues : GeometricReasoner ℕ where
  stateId := fun n => .ok (toString n)
  equivalenceKey := fun n => .ok (some (.int (n % 3 : ℕ)))
  quotientSearchSafe := true

/-- A digest that tells the three keys apart. -/
def residueSha256 : Json → String
  | .int 0 => "0"
  | .int 1 => "1"
  | .int 2 => "2"
  | _ => ""

theorem residue_of_classDigest {n : ℕ} :
    classDigest residueSha256 residues n = .ok (toString (n % 3)) := by
  show Except.ok (residueSha256 (.int (n % 3 : ℕ))) = _
  obtain h | h | h : n % 3 = 0 ∨ n % 3 = 1 ∨ n % 3 = 2 := by omega
  · rw [h]
    rfl
  · rw [h]
    rfl
  · rw [h]
    rfl

/-- WITNESS: Two is found from zero over one. -/
theorem search_residues :
    ∃ receipt states,
      search residueSha256 residues [0] (fun n => .ok [n + 1]) (fun n => .ok (n % 3 = 2)) 3 =
        .ok receipt ∧ receipt.status = "found" ∧ receipt.representativePathIds = ["0", "1", "2"] ∧
      SolutionPath residues [0] (fun n => .ok [n + 1]) (fun n => .ok (n % 3 = 2)) states ∧
      ∀ other, SolutionPath residues [0] (fun n => .ok [n + 1]) (fun n => .ok (n % 3 = 2)) other →
        states.length ≤ other.length := by
  have hresidue : ∀ {digest n m}, classDigest residueSha256 residues n = .ok digest →
      classDigest residueSha256 residues m = .ok digest → n % 3 = m % 3 := by
    intro digest n m hn hm
    rw [residue_of_classDigest] at hn hm
    have hsame := Except.ok.inj (hn.trans hm.symm)
    have hcases : ∀ a < 3, ∀ b < 3, toString a = toString b → a = b := by decide
    exact hcases _ (Nat.mod_lt _ (by decide)) _ (Nat.mod_lt _ (by decide)) hsame
  have hbisim : ClassesBisimilar residueSha256 residues (fun n => .ok [n + 1])
      (fun n => .ok (n % 3 = 2)) := by
    constructor
    · intro digest s t hs ht
      exact Iff.rfl
    · intro digest s t hs ht
      rw [hresidue hs ht]
    · rintro digest s t s' hs ht ⟨_, hexpand, hs'⟩ -
      obtain rfl := Except.ok.inj hexpand
      obtain rfl := List.mem_singleton.mp hs'
      have hsame := hresidue hs ht
      refine ⟨toString ((t + 1) % 3), t + 1, ⟨_, rfl, List.mem_singleton_self _⟩, ?_,
        residue_of_classDigest⟩
      rw [residue_of_classDigest, show (s + 1) % 3 = (t + 1) % 3 by omega]
  have hrun : ∃ receipt, search residueSha256 residues [0] (fun n => .ok [n + 1])
      (fun n => .ok (n % 3 = 2)) 3 = .ok receipt ∧ receipt.status = "found" ∧
      receipt.representativePathIds = ["0", "1", "2"] := by
    have hloop : searchLoop residueSha256 residues (fun n => .ok [n + 1])
        (fun n => .ok (n % 3 = 2)) 3 { queue := [(0, none)] } =
        .ok ⟨⟨[], [("0", "0", none), ("1", "1", some "0"), ("2", "2", some "1")], 3, 0, 0⟩,
          some "2", "found"⟩ := by
      rw [searchLoop_cons rfl]
      show searchLoop _ _ _ _ _ ⟨[(1, some "0")], [("0", "0", none)], 1, 0, 0⟩ = _
      rw [searchLoop_cons rfl]
      show searchLoop _ _ _ _ _ ⟨[(2, some "1")], [("0", "0", none), ("1", "1", some "0")], 2, 0, 0⟩ = _
      rw [searchLoop_cons rfl]
      rfl
    refine ⟨.sealed residueSha256 {
      status := "found", rawStatesSeen := 3, quotientClassesVisited := 3, statesPruned := 0
      equivalentStatesSkipped := 0, representativePathIds := ["0", "1", "2"]
      solutionId := some "2" }, ?_, rfl, rfl⟩
    refine bind_eq_ok.mpr ⟨(), rfl, bind_eq_ok.mpr ⟨(), rfl, bind_eq_ok.mpr ⟨[0], rfl, ?_⟩⟩⟩
    exact bind_eq_ok.mpr ⟨_, hloop, rfl⟩
  obtain ⟨receipt, hsearch, hstatus, hids⟩ := hrun
  obtain ⟨-, hfound, -⟩ := (search_sound_and_complete hbisim).2 receipt hsearch
  obtain ⟨states, hpath, -, hshortest⟩ := hfound hstatus
  exact ⟨receipt, states, hsearch, hstatus, hids, hpath, hshortest⟩

end GeometricReasoner

end PhiOS
