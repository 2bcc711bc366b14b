import PhiOS.Library.Dict
import PhiOS.Library.LeastCost
import PhiOS.Model.RelationalField

/-!
# Paths of least cost

`least_cost_path` is a best-first search over the graph of the admissible transitions: its loop
keeps the invariant of such searches, so that a path that is found is one of least cost, and where
the search is exhausted no goal is reachable. What comes out does not depend on the order in which
starts and neighbours are given.
-/

set_option autoImplicit false

namespace PhiOS

open LeastCost KeyOrder

namespace RelationalField

variable {σ : Type}

/-! ## Transitions -/

section Transitions

variable {rt : FieldRuntime} {field : RelationalField σ} {source target : σ} {baseCost : PyReal}
  {receipt : TransitionReceipt}

/-- A number that is accepted is not negative. -/
theorem requireNonnegativeFinite_eq_ok {cls : ErrorClass} {value : PyReal} {label : String} {q : ℚ} :
    requireNonnegativeFinite cls value label = .ok q ↔ value = .number q ∧ 0 ≤ q := by
  unfold requireNonnegativeFinite
  constructor
  · intro h
    obtain ⟨number, hnumber, h⟩ := bind_eq_ok.mp h
    obtain ⟨_, hsign, h⟩ := bind_eq_ok.mp h
    obtain rfl : number = q := Except.ok.inj h
    have hvalue : value = .number number := by
      cases value with
      | number value => exact congrArg PyReal.number (Except.ok.inj hnumber)
      | notFinite => cases hnumber
      | notNumeric => cases hnumber
    exact ⟨hvalue, not_lt.mp (raiseIf_eq_ok.mp hsign)⟩
  · rintro ⟨rfl, hq⟩
    exact bind_eq_ok.mpr ⟨q, rfl, bind_eq_ok.mpr ⟨(), raiseIf_eq_ok.mpr (not_lt.mpr hq), rfl⟩⟩

/-- A transition is blocked and has no cost, or it is admissible and has one that is not
negative. -/
theorem assessTransition_cases
    (h : field.assessTransition rt source target baseCost = .ok receipt) :
    receipt.status = "blocked" ∧ receipt.totalCost = none ∨
      receipt.status = "admissible" ∧ ∃ c, receipt.totalCost = some c ∧ 0 ≤ c := by
  unfold assessTransition at h
  obtain ⟨base, -, h⟩ := bind_eq_ok.mp h
  obtain ⟨sourceId, -, h⟩ := bind_eq_ok.mp h
  obtain ⟨targetId, -, h⟩ := bind_eq_ok.mp h
  obtain ⟨blockedBy, -, h⟩ := bind_eq_ok.mp h
  by_cases hblocked : blockedBy ≠ []
  · rw [if_pos hblocked] at h
    cases h
    exact Or.inl ⟨rfl, rfl⟩
  · rw [if_neg hblocked] at h
    obtain ⟨axisChanges, -, h⟩ := bind_eq_ok.mp h
    obtain ⟨relationCosts, -, h⟩ := bind_eq_ok.mp h
    obtain ⟨total, htotal, h⟩ := bind_eq_ok.mp h
    cases h
    exact Or.inr ⟨rfl, total, rfl, (requireNonnegativeFinite_eq_ok.mp htotal).2⟩

end Transitions

/-! ## The graph of the admissible transitions -/

/-- The name of a state. -/
def nameOf (field : RelationalField σ) (state : σ) : String :=
  match field.requireId state with
  | .ok id => id
  | .error _ => ""

theorem nameOf_eq {field : RelationalField σ} {state : σ} {id : String}
    (h : field.requireId state = .ok id) : field.nameOf state = id := by
  unfold nameOf
  rw [h]

/-- The transition is admissible at this cost. -/
def Admits (rt : FieldRuntime) (field : RelationalField σ) (base : ℚ) (source target : σ) (cost : ℚ) :
    Prop :=
  ∃ receipt, field.assessTransition rt source target (.number base) = .ok receipt ∧
    receipt.status = "admissible" ∧ receipt.totalCost = some cost

/-- The admissible transitions that `expand` gives. -/
def graph (rt : FieldRuntime) (field : RelationalField σ) (base : ℚ) (starts : List σ)
    (expand : σ → Except PyError (List σ)) (goal : σ → Except PyError Bool) :
    LeastCost.Graph σ ℚ where
  start := fun state => state ∈ starts
  goal := fun state => goal state = .ok true
  step := fun source target cost =>
    (∃ neighbors, expand source = .ok neighbors ∧ target ∈ neighbors) ∧
      field.Admits rt base source target cost
  nonneg := by
    rintro source target cost ⟨-, receipt, hassess, hstatus, hcost⟩
    rcases assessTransition_cases hassess with ⟨hblocked, -⟩ | ⟨-, c, hc, hnonneg⟩
    · rw [hblocked] at hstatus
      exact absurd hstatus (by decide)
    · obtain rfl : c = cost := Option.some.inj (hc.symm.trans hcost)
      exact hnonneg

/-- What the variables of the search say. -/
def Search.labels (search : Search σ) : Labels σ String ℚ where
  state := search.stateById
  cost := search.bestCost
  parent := fun id => (search.parent id).join
  settled := fun id => id ∈ search.expanded
  queue := fun entry => ∃ state, (entry.1, entry.2, state) ∈ search.frontier

/-- What holds between two steps of the search. -/
structure SearchInv (rt : FieldRuntime) (field : RelationalField σ) (base : ℚ) (starts : List σ)
    (expand : σ → Except PyError (List σ)) (goal : σ → Except PyError Bool) (floor : ℚ)
    (pending : String → σ → Prop) (search : Search σ) : Prop where
  inv : Inv (field.graph rt base starts expand goal) field.nameOf floor pending search.labels
  sorted : search.frontier.Pairwise entryLE
  entries : ∀ entry ∈ search.frontier, search.stateById entry.2.1 = some entry.2.2
  ids : ∀ {id state}, search.stateById id = some state → field.requireId state = .ok id
  parents : ∀ {id cost}, search.bestCost id = some cost → ∃ parent, search.parent id = some parent
  nodup : search.expanded.Nodup
  goals : ∀ id ∈ search.expanded, ∀ state, search.stateById id = some state → goal state ≠ .ok true

/-! ## The heap -/

theorem entryLE_total (a b : ℚ × String × σ) : entryLE a b ∨ entryLE b a := by
  rcases lt_trichotomy a.1 b.1 with hlt | heq | hlt
  · exact Or.inl (Or.inl hlt)
  · rcases le_total a.2.1 b.2.1 with hle | hle
    · exact Or.inl (Or.inr ⟨heq, hle⟩)
    · exact Or.inr (Or.inr ⟨heq.symm, hle⟩)
  · exact Or.inr (Or.inl hlt)

theorem entryLE_trans {a b c : ℚ × String × σ} (hab : entryLE a b) (hbc : entryLE b c) :
    entryLE a c := by
  rcases hab with hab | ⟨hab, hab'⟩
  · rcases hbc with hbc | ⟨hbc, -⟩
    · exact Or.inl (hab.trans hbc)
    · exact Or.inl (hbc ▸ hab)
  · rcases hbc with hbc | ⟨hbc, hbc'⟩
    · exact Or.inl (hab ▸ hbc)
    · exact Or.inr ⟨hab.trans hbc, hab'.trans hbc'⟩

theorem entryLE.cost_le {a b : ℚ × String × σ} (h : entryLE a b) : a.1 ≤ b.1 := by
  rcases h with h | h
  · exact h.le
  · exact h.1.le

@[simp] theorem mem_heappush {frontier : List (ℚ × String × σ)} {entry e : ℚ × String × σ} :
    e ∈ heappush frontier entry ↔ e = entry ∨ e ∈ frontier := by
  unfold heappush
  exact List.mem_orderedInsert entryLE

instance : Std.Total (@entryLE σ) := ⟨entryLE_total⟩

instance : IsTrans (ℚ × String × σ) entryLE := ⟨fun _ _ _ => entryLE_trans⟩

theorem sorted_heappush {frontier : List (ℚ × String × σ)} (h : frontier.Pairwise entryLE)
    (entry : ℚ × String × σ) : (heappush frontier entry).Pairwise entryLE :=
  h.orderedInsert entry frontier

/-- The entries that are dropped are out of date, and the one that is taken is not. -/
theorem popFresh_some {search : Search σ} {frontier rest : List (ℚ × String × σ)}
    {entry : ℚ × String × σ} (h : search.popFresh frontier = some (entry, rest)) :
    (∃ stale, frontier = stale ++ entry :: rest ∧
      ∀ e ∈ stale, e.2.1 ∈ search.expanded ∨ search.bestCost e.2.1 ≠ some e.1) ∧
    entry.2.1 ∉ search.expanded ∧ search.bestCost entry.2.1 = some entry.1 := by
  induction frontier with
  | nil => cases h
  | cons head frontier ih =>
      unfold Search.popFresh at h
      by_cases hstale : head.2.1 ∈ search.expanded ∨ search.bestCost head.2.1 ≠ some head.1
      · rw [if_pos hstale] at h
        obtain ⟨⟨stale, rfl, hall⟩, hfresh⟩ := ih h
        refine ⟨⟨head :: stale, rfl, ?_⟩, hfresh⟩
        intro e he
        rcases List.mem_cons.mp he with rfl | he
        · exact hstale
        · exact hall e he
      · rw [if_neg hstale] at h
        obtain ⟨rfl, rfl⟩ := Prod.mk.inj (Option.some.inj h)
        obtain ⟨hopen, hcost⟩ := not_or.mp hstale
        exact ⟨⟨[], rfl, fun e he => by cases he⟩, hopen, not_not.mp hcost⟩

theorem popFresh_none {search : Search σ} {frontier : List (ℚ × String × σ)}
    (h : search.popFresh frontier = none) :
    ∀ e ∈ frontier, e.2.1 ∈ search.expanded ∨ search.bestCost e.2.1 ≠ some e.1 := by
  induction frontier with
  | nil => exact fun e he => by cases he
  | cons head frontier ih =>
      unfold Search.popFresh at h
      by_cases hstale : head.2.1 ∈ search.expanded ∨ search.bestCost head.2.1 ≠ some head.1
      · rw [if_pos hstale] at h
        intro e he
        rcases List.mem_cons.mp he with rfl | he
        · exact hstale
        · exact ih h e he
      · rw [if_neg hstale] at h
        cases h

/-! ## One round -/

section Round

variable {rt : FieldRuntime} {field : RelationalField σ} {base floor : ℚ} {starts : List σ}
  {expand : σ → Except PyError (List σ)} {goal : σ → Except PyError Bool}
  {pending : String → σ → Prop} {search search' : Search σ}

/-- What relaxing keeps: the expanded states, and their names and costs. -/
structure Extends (search search' : Search σ) : Prop where
  expanded : search'.expanded = search.expanded
  states : ∀ {id state}, search.stateById id = some state → search'.stateById id = some state

theorem Extends.refl (search : Search σ) : Extends search search := ⟨rfl, fun h => h⟩

theorem Extends.trans {search'' : Search σ} (h : Extends search search')
    (h' : Extends search' search'') : Extends search search'' :=
  ⟨h'.expanded.trans h.expanded, fun hs => h'.states (h.states hs)⟩

/-- Naming a neighbour. -/
theorem SearchInv.observe [DecidableEq σ]
    (h : SearchInv rt field base starts expand goal floor pending search) {id : String}
    {neighbor : σ} (hid : field.requireId neighbor = .ok id)
    (hsame : ∀ state, search.stateById id = some state → state = neighbor) :
    SearchInv rt field base starts expand goal floor pending
      { search with stateById := Function.update search.stateById id (some neighbor) } := by
  have hname := nameOf_eq hid
  have hkept : ∀ {k state}, search.stateById k = some state →
      Function.update search.stateById id (some neighbor) k = some state := by
    intro k state hstate
    by_cases hk : k = id
    · obtain rfl := hk
      rw [hsame state hstate]
      exact Function.update_self ..
    · exact (Function.update_of_ne hk ..).trans hstate
  have hold : ∀ {k state}, Function.update search.stateById id (some neighbor) k = some state →
      k = id ∧ state = neighbor ∨ search.stateById k = some state := by
    intro k state hstate
    by_cases hk : k = id
    · rw [hk, Function.update_self] at hstate
      exact Or.inl ⟨hk, (Option.some.inj hstate).symm⟩
    · exact Or.inr ((Function.update_of_ne hk ..).symm.trans hstate)
  refine ⟨?_, h.sorted, fun entry he => hkept (h.entries entry he), ?_, h.parents, h.nodup, ?_⟩
  · subst hname
    exact h.inv.observe hsame
  · intro k state hstate
    rcases hold hstate with ⟨rfl, rfl⟩ | hstate
    · exact hid
    · exact h.ids hstate
  · intro k hk state hstate
    obtain ⟨cost, hcost⟩ := h.inv.known hk
    obtain ⟨-, state', hstate', -⟩ := h.inv.attained hcost
    obtain rfl : state' = state := Option.some.inj ((hkept hstate').symm.trans hstate)
    exact h.goals k hk _ hstate'

/-- A neighbour that an admissible transition makes cheaper. -/
theorem SearchInv.improve
    (h : SearchInv rt field base starts expand goal floor pending search) {currentId id : String}
    {current neighbor : σ} {cost : ℚ} (hcurrent : currentId ∈ search.expanded)
    (hcost : search.bestCost currentId = some floor)
    (hstate : search.stateById currentId = some current)
    (hstep : (field.graph rt base starts expand goal).step current neighbor cost)
    (hid : field.requireId neighbor = .ok id) (hnamed : search.stateById id = some neighbor)
    (hbetter : (search.bestCost id).all (floor + cost < ·) = true) :
    SearchInv rt field base starts expand goal floor pending
      { search with
        bestCost := Function.update search.bestCost id (some (floor + cost))
        parent := Function.update search.parent id (some (some currentId))
        frontier := heappush search.frontier (floor + cost, id, neighbor) } := by
  obtain rfl := nameOf_eq hid
  have hlower : ∀ c, search.bestCost (field.nameOf neighbor) = some c → floor + cost < c := by
    intro c hc
    simpa [hc] using hbetter
  refine ⟨?_, sorted_heappush h.sorted _, ?_, h.ids, ?_, h.nodup, h.goals⟩
  · have himproved := h.inv.improve (j := currentId) hcurrent hcost hstate hstep hnamed hlower
    -- the heap and the parents say what the labels say
    have hqueue : {entry : ℚ × String | ∃ state, (entry.1, entry.2, state) ∈
        heappush search.frontier (floor + cost, field.nameOf neighbor, neighbor)} =
        insert (floor + cost, field.nameOf neighbor) search.labels.queue := by
      ext entry
      constructor
      · rintro ⟨state, hentry⟩
        rcases mem_heappush.mp hentry with hnew | hold
        · obtain ⟨hc, hrest⟩ := Prod.mk.inj hnew
          exact Or.inl (Prod.ext hc (Prod.mk.inj hrest).1)
        · exact Or.inr ⟨state, hold⟩
      · rintro (rfl | ⟨state, hold⟩)
        · exact ⟨neighbor, mem_heappush.mpr (Or.inl rfl)⟩
        · exact ⟨state, mem_heappush.mpr (Or.inr hold)⟩
    have hparent : (fun k => (Function.update search.parent (field.nameOf neighbor)
        (some (some currentId)) k).join) =
        Function.update search.labels.parent (field.nameOf neighbor) (some currentId) := by
      funext k
      by_cases hk : k = field.nameOf neighbor
      · rw [hk, Function.update_self, Function.update_self]
        rfl
      · rw [Function.update_of_ne hk, Function.update_of_ne hk]
        rfl
    unfold Labels.improve at himproved
    rw [← hqueue, ← hparent] at himproved
    exact himproved
  · intro entry he
    rcases mem_heappush.mp he with rfl | he
    · exact hnamed
    · exact h.entries entry he
  · intro k c hc
    by_cases hk : k = field.nameOf neighbor
    · exact ⟨_, by rw [hk]; exact Function.update_self ..⟩
    · obtain ⟨parent, hparent⟩ := h.parents ((Function.update_of_ne hk ..).symm.trans hc)
      exact ⟨parent, (Function.update_of_ne hk ..).trans hparent⟩

theorem SearchInv.count (h : SearchInv rt field base starts expand goal floor pending search)
    (evaluated blocked : ℕ) : SearchInv rt field base starts expand goal floor pending
      { search with transitionsEvaluated := evaluated, blockedTransitions := blocked } :=
  ⟨h.inv, h.sorted, h.entries, h.ids, h.parents, h.nodup, h.goals⟩

/-- Relaxing names the neighbour and keeps what was named.
SOURCE: core/relational_field.py:365-393 -/
theorem relax_extends [DecidableEq σ] {currentCost : ℚ} {currentId id : String}
    {current neighbor : σ}
    (hrelax : relax rt field base currentCost currentId current search (id, neighbor) = .ok search') :
    Extends search search' ∧ search'.stateById id = some neighbor := by
  unfold relax at hrelax
  obtain ⟨_, hreused, hrelax⟩ := bind_eq_ok.mp hrelax
  obtain ⟨receipt, -, hrelax⟩ := bind_eq_ok.mp hrelax
  have hnamed : Function.update search.stateById id (some neighbor) id = some neighbor :=
    Function.update_self ..
  have hstates : ∀ {k state}, search.stateById k = some state →
      Function.update search.stateById id (some neighbor) k = some state := by
    intro k state hs
    by_cases hk : k = id
    · obtain rfl := hk
      have hsame : state = neighbor := by simpa [hs] using hreused
      rw [hsame]
      exact hnamed
    · exact (Function.update_of_ne hk ..).trans hs
  by_cases hstatus : receipt.status = "blocked"
  · rw [if_pos hstatus] at hrelax
    cases hrelax
    exact ⟨⟨rfl, hstates⟩, hnamed⟩
  · rw [if_neg hstatus] at hrelax
    cases htotal : receipt.totalCost with
    | none =>
        rw [htotal] at hrelax
        cases hrelax
    | some cost =>
        rw [htotal] at hrelax
        dsimp only at hrelax
        by_cases hbetter : (search.bestCost id).all (currentCost + cost < ·) = true
        · rw [if_pos hbetter] at hrelax
          cases hrelax
          exact ⟨⟨rfl, hstates⟩, hnamed⟩
        · rw [if_neg hbetter] at hrelax
          cases hrelax
          exact ⟨⟨rfl, hstates⟩, hnamed⟩

/-- Relaxing all neighbours names them. The induction is on the neighbours. -/
theorem relaxAll_extends [DecidableEq σ] {currentCost : ℚ} {currentId : String} {current : σ}
    {named : List (String × σ)}
    (hrelax : named.foldlM (relax rt field base currentCost currentId current) search = .ok search') :
    Extends search search' ∧ ∀ entry ∈ named, search'.stateById entry.1 = some entry.2 := by
  induction named generalizing search with
  | nil =>
      obtain rfl : search = search' := Except.ok.inj hrelax
      exact ⟨.refl search, fun entry he => by cases he⟩
  | cons entry named ih =>
      rw [List.foldlM_cons] at hrelax
      obtain ⟨search₁, hfirst, hrest⟩ := bind_eq_ok.mp hrelax
      obtain ⟨hextends₁, hnamed₁⟩ := relax_extends hfirst
      obtain ⟨hextends₂, hnamed₂⟩ := ih hrest
      refine ⟨hextends₁.trans hextends₂, ?_⟩
      intro e he
      rcases List.mem_cons.mp he with rfl | he
      · exact hextends₂.states hnamed₁
      · exact hnamed₂ e he

/-- The transition to one neighbour is taken into account.
SOURCE: core/relational_field.py:365-393 -/
theorem relax_spec [DecidableEq σ]
    (h : SearchInv rt field base starts expand goal floor pending search) {currentId id : String}
    {current neighbor : σ} (hcurrent : currentId ∈ search.expanded)
    (hcost : search.bestCost currentId = some floor)
    (hstate : search.stateById currentId = some current)
    (hexpand : ∃ neighbors, expand current = .ok neighbors ∧ neighbor ∈ neighbors)
    (hid : field.requireId neighbor = .ok id)
    (hrelax : relax rt field base floor currentId current search (id, neighbor) = .ok search') :
    SearchInv rt field base starts expand goal floor
        (fun k t => pending k t ∧ ¬ (k = currentId ∧ t = neighbor)) search' ∧
      search'.bestCost currentId = some floor := by
  obtain ⟨hextends, hnamed'⟩ := relax_extends hrelax
  have hname := nameOf_eq hid
  -- once the step is relaxed, it is no longer pending
  have hdone : SearchInv rt field base starts expand goal floor pending search' →
      (∀ w, (field.graph rt base starts expand goal).step current neighbor w →
        Relaxed field.nameOf search'.labels currentId neighbor w) →
      SearchInv rt field base starts expand goal floor
        (fun k t => pending k t ∧ ¬ (k = currentId ∧ t = neighbor)) search' := by
    intro h' hrelaxed
    refine { h' with inv := h'.inv.done ?_ }
    intro k s t w hk hs hpending hpending' hstep
    obtain ⟨rfl, rfl⟩ : k = currentId ∧ t = neighbor := by
      by_contra hne
      exact hpending' ⟨hpending, hne⟩
    obtain rfl : current = s := Option.some.inj ((hextends.states hstate).symm.trans hs)
    exact hrelaxed w hstep
  unfold relax at hrelax
  obtain ⟨_, hreused, hrelax⟩ := bind_eq_ok.mp hrelax
  have hsame : ∀ state, search.stateById id = some state → state = neighbor := by
    intro state hs
    simpa [hs] using hreused
  have hobserved := h.observe hid hsame
  obtain ⟨receipt, hassess, hrelax⟩ := bind_eq_ok.mp hrelax
  rcases assessTransition_cases hassess with ⟨hstatus, -⟩ | ⟨hstatus, cost, htotal, hnonneg⟩
  · rw [if_pos hstatus] at hrelax
    cases hrelax
    refine ⟨hdone (hobserved.count _ _) ?_, hcost⟩
    rintro w ⟨-, receipt', hassess', hstatus', -⟩
    obtain rfl : receipt = receipt' := Except.ok.inj (hassess.symm.trans hassess')
    rw [hstatus] at hstatus'
    exact absurd hstatus' (by decide)
  · rw [if_neg (by rw [hstatus]; decide), htotal] at hrelax
    dsimp only at hrelax
    have hadmits : (field.graph rt base starts expand goal).step current neighbor cost :=
      ⟨hexpand, receipt, hassess, hstatus, htotal⟩
    have honly : ∀ w, (field.graph rt base starts expand goal).step current neighbor w →
        w = cost := by
      rintro w ⟨-, receipt', hassess', -, htotal'⟩
      obtain rfl : receipt = receipt' := Except.ok.inj (hassess.symm.trans hassess')
      exact Option.some.inj (htotal'.symm.trans htotal)
    by_cases hbetter : (search.bestCost id).all (floor + cost < ·) = true
    · rw [if_pos hbetter] at hrelax
      cases hrelax
      have hne : currentId ≠ id := by
        rintro rfl
        have hlt : floor + cost < floor := by simpa [hcost] using hbetter
        exact absurd hlt (not_lt.mpr (le_add_of_nonneg_right hnonneg))
      have hkept : Function.update search.bestCost id (some (floor + cost)) currentId = some floor :=
        (Function.update_of_ne hne ..).trans hcost
      refine ⟨hdone (SearchInv.improve (hobserved.count _ _) hcurrent hcost
        (hextends.states hstate) hadmits hid hnamed' hbetter) ?_, hkept⟩
      intro w hstep
      obtain rfl := honly w hstep
      refine ⟨by rw [hname]; exact hnamed', floor, floor + w, hkept, ?_, le_refl _⟩
      rw [hname]
      exact Function.update_self ..
    · rw [if_neg hbetter] at hrelax
      cases hrelax
      refine ⟨hdone (hobserved.count _ _) ?_, hcost⟩
      intro w hstep
      obtain rfl := honly w hstep
      cases hbest : search.bestCost id with
      | none => simp [hbest] at hbetter
      | some c =>
          have hle : c ≤ floor + w := by simpa [hbest] using hbetter
          exact ⟨by rw [hname]; exact hnamed', floor, c, hcost, by rw [hname]; exact hbest, hle⟩

/-- The transitions to all neighbours are taken into account. The induction is on the
neighbours. -/
theorem relaxAll_spec [DecidableEq σ] {currentId : String} {current : σ}
    {named : List (String × σ)} {neighbors : List σ} (hexpand : expand current = .ok neighbors)
    (hnamed : ∀ entry ∈ named, field.requireId entry.2 = .ok entry.1 ∧ entry.2 ∈ neighbors)
    (h : SearchInv rt field base starts expand goal floor pending search)
    (hcurrent : currentId ∈ search.expanded) (hcost : search.bestCost currentId = some floor)
    (hstate : search.stateById currentId = some current)
    (hrelax : named.foldlM (relax rt field base floor currentId current) search = .ok search') :
    SearchInv rt field base starts expand goal floor
      (fun k t => pending k t ∧ ¬ (k = currentId ∧ t ∈ named.map (·.2))) search' := by
  induction named generalizing search pending with
  | nil =>
      obtain rfl : search = search' := Except.ok.inj hrelax
      simpa using h
  | cons entry named ih =>
      rw [List.foldlM_cons] at hrelax
      obtain ⟨search₁, hfirst, hrest⟩ := bind_eq_ok.mp hrelax
      obtain ⟨hid, hmem⟩ := hnamed entry (List.mem_cons_self ..)
      obtain ⟨hextends, -⟩ := relax_extends hfirst
      obtain ⟨h₁, hcost₁⟩ := relax_spec h hcurrent hcost hstate ⟨neighbors, hexpand, hmem⟩ hid hfirst
      have h₂ := ih (fun e he => hnamed e (List.mem_cons_of_mem _ he)) h₁
        (hextends.expanded ▸ hcurrent) hcost₁ (hextends.states hstate) hrest
      refine { h₂ with inv := h₂.inv.done ?_ }
      rintro k s t w - - ⟨⟨hpending, hne⟩, hout⟩ hpending'
      refine absurd ⟨hpending, ?_⟩ hpending'
      rintro ⟨rfl, hin⟩
      rw [List.map_cons, List.mem_cons] at hin
      rcases hin with rfl | hin
      · exact hne ⟨rfl, rfl⟩
      · exact hout ⟨rfl, hin⟩

end Round

/-! ## Sorting -/

section Sorting

variable {field : RelationalField σ} {states states' : List σ} {named : List (String × σ)}

/-- States are sorted when each of them has a name. -/
theorem nameAll_eq_ok :
    (states.mapM fun state => do return (← field.requireId state, state)) = .ok named ↔
      named = states.map (fun state => (field.nameOf state, state)) ∧
        ∀ state ∈ states, field.requireId state = .ok (field.nameOf state) := by
  induction states generalizing named with
  | nil =>
      constructor
      · intro h
        cases h
        exact ⟨rfl, fun state hstate => by cases hstate⟩
      · rintro ⟨rfl, -⟩
        rfl
  | cons state states ih =>
      rw [List.mapM_cons]
      constructor
      · intro h
        obtain ⟨entry, hentry, h⟩ := bind_eq_ok.mp h
        obtain ⟨id, hid, hentry⟩ := bind_eq_ok.mp hentry
        obtain ⟨rest, hrest, h⟩ := bind_eq_ok.mp h
        obtain ⟨rfl, hall⟩ := ih.mp hrest
        have hname := nameOf_eq hid
        refine ⟨?_, ?_⟩
        · rw [← Except.ok.inj h, ← Except.ok.inj hentry, List.map_cons, hname]
        · intro s hs
          rcases List.mem_cons.mp hs with rfl | hs
          · rw [hname]
            exact hid
          · exact hall s hs
      · rintro ⟨rfl, hall⟩
        have hid := hall state (List.mem_cons_self ..)
        refine bind_eq_ok.mpr ⟨_, bind_eq_ok.mpr ⟨_, hid, rfl⟩, ?_⟩
        exact bind_eq_ok.mpr ⟨_, ih.mpr ⟨rfl, fun s hs => hall s (List.mem_cons_of_mem _ hs)⟩, rfl⟩

instance : Std.Total fun (a b : String × σ) => a.1 ≤ b.1 := ⟨fun a b => le_total a.1 b.1⟩

instance : IsTrans (String × σ) fun a b => a.1 ≤ b.1 := ⟨fun _ _ _ => le_trans⟩

theorem sortById_eq_ok (h : field.sortById states = .ok named) :
    named.Perm (states.map fun state => (field.nameOf state, state)) ∧
      named.Pairwise (fun a b => a.1 ≤ b.1) ∧
      ∀ entry ∈ named, field.requireId entry.2 = .ok entry.1 ∧ entry.2 ∈ states := by
  unfold sortById at h
  obtain ⟨all, hall, h⟩ := bind_eq_ok.mp h
  obtain ⟨rfl, hnames⟩ := nameAll_eq_ok.mp hall
  obtain rfl := Except.ok.inj h
  refine ⟨List.perm_insertionSort _ _, List.pairwise_insertionSort _ _, ?_⟩
  intro entry hentry
  obtain ⟨state, hstate, rfl⟩ := List.mem_map.mp ((List.mem_insertionSort _).mp hentry)
  exact ⟨hnames state hstate, hstate⟩

/-- States that are given in another order are sorted in the same way, where no two of
them share a name. -/
theorem sortById_perm (hperm : states.Perm states') (h : field.sortById states = .ok named)
    (hunique : ∀ a ∈ named, ∀ b ∈ named, a.1 = b.1 → a = b) :
    field.sortById states' = .ok named := by
  obtain ⟨hnamed, hsorted, hids⟩ := sortById_eq_ok h
  have hnames : ∀ state ∈ states', field.requireId state = .ok (field.nameOf state) := by
    intro state hstate
    have hentry : (field.nameOf state, state) ∈ named :=
      hnamed.mem_iff.mpr (List.mem_map_of_mem (hperm.mem_iff.mpr hstate))
    exact (hids _ hentry).1
  have hsame : (states'.map fun state => (field.nameOf state, state)).Perm named :=
    (hperm.symm.map _).trans hnamed.symm
  unfold sortById
  refine bind_eq_ok.mpr ⟨_, nameAll_eq_ok.mpr ⟨rfl, hnames⟩, congrArg Except.ok ?_⟩
  have hresorted := (List.perm_insertionSort (fun a b : String × σ => a.1 ≤ b.1)
    (states'.map fun state => (field.nameOf state, state))).trans hsame
  refine List.Perm.eq_of_pairwise ?_ (List.pairwise_insertionSort _ _) hsorted hresorted
  intro a b ha hb hab hba
  exact hunique a (hresorted.mem_iff.mp ha) b hb (le_antisymm hab hba)

end Sorting

/-! ## The start -/

/-- The heap before the loop. The induction is on the starts. -/
theorem startFrontier_spec {named : List (String × σ)} {frontier : List (ℚ × String × σ)}
    (h : frontier.Pairwise entryLE) :
    (named.foldl (fun frontier start => heappush frontier (0, start)) frontier).Pairwise entryLE ∧
      ∀ entry, entry ∈ named.foldl (fun frontier start => heappush frontier (0, start)) frontier ↔
        entry ∈ frontier ∨ ∃ start ∈ named, entry = (0, start) := by
  induction named generalizing frontier with
  | nil => exact ⟨h, fun entry => by simp⟩
  | cons start named ih =>
      obtain ⟨hsorted, hmem⟩ := ih (sorted_heappush h (0, start))
      refine ⟨hsorted, ?_⟩
      intro entry
      rw [List.foldl_cons, hmem, mem_heappush]
      constructor
      · rintro ((rfl | hold) | ⟨other, hother, rfl⟩)
        · exact Or.inr ⟨start, List.mem_cons_self .., rfl⟩
        · exact Or.inl hold
        · exact Or.inr ⟨other, List.mem_cons_of_mem _ hother, rfl⟩
      · rintro (hold | ⟨other, hother, rfl⟩)
        · exact Or.inl (Or.inr hold)
        · rcases List.mem_cons.mp hother with rfl | hother
          · exact Or.inl (Or.inl rfl)
          · exact Or.inr ⟨other, hother, rfl⟩

/-- The invariant holds before the loop.
SOURCE: core/relational_field.py:317-333 -/
theorem searchInv_start {rt : FieldRuntime} {field : RelationalField σ} {base : ℚ} {starts : List σ}
    {expand : σ → Except PyError (List σ)} {goal : σ → Except PyError Bool}
    {named : List (String × σ)} (h : field.sortById starts = .ok named)
    (hnodup : (named.map (·.1)).Nodup) :
    SearchInv rt field base starts expand goal 0 (fun _ _ => False) (startSearch named) := by
  obtain ⟨hperm, -, hids⟩ := sortById_eq_ok h
  have hnil : ([] : List (ℚ × String × σ)).Pairwise entryLE := List.Pairwise.nil
  obtain ⟨hsorted, hfrontier⟩ := startFrontier_spec hnil
  have hlookup : ∀ {id state}, named.lookup id = some state ↔ state ∈ starts ∧ field.nameOf state = id := by
    intro id state
    constructor
    · intro hfound
      obtain ⟨hid, hstart⟩ := hids _ (mem_of_lookup hfound)
      exact ⟨hstart, nameOf_eq hid⟩
    · rintro ⟨hstart, rfl⟩
      exact lookup_of_mem hnodup (hperm.mem_iff.mpr (List.mem_map_of_mem hstart))
  have hcost : ∀ {id cost}, (startSearch named).bestCost id = some cost ↔
      cost = 0 ∧ ∃ state, named.lookup id = some state := by
    intro id cost
    unfold startSearch
    cases hfound : named.lookup id with
    | none => simp [hfound]
    | some state => simp [hfound, eq_comm]
  refine ⟨inv_start hlookup hcost ?_ ?_ ?_, hsorted, ?_, ?_, ?_, List.nodup_nil, ?_⟩
  · intro id
    show (((startSearch named).parent id).join) = none
    unfold startSearch
    cases hfound : named.lookup id <;> simp [hfound]
  · exact Set.eq_empty_iff_forall_notMem.mpr fun id hid => by cases hid
  · intro cost id
    rw [show (startSearch named).labels.cost id = (startSearch named).bestCost id from rfl, hcost]
    constructor
    · rintro ⟨state, hentry⟩
      rcases (hfrontier _).mp hentry with hnil | ⟨start, hstart, heq⟩
      · cases hnil
      · obtain ⟨rfl, heq⟩ := Prod.mk.inj heq
        exact ⟨rfl, state, lookup_of_mem hnodup (heq ▸ hstart)⟩
    · rintro ⟨rfl, state, hfound⟩
      exact ⟨state, (hfrontier _).mpr (Or.inr ⟨(id, state), mem_of_lookup hfound, rfl⟩)⟩
  · intro entry hentry
    rcases (hfrontier _).mp hentry with hnil | ⟨start, hstart, rfl⟩
    · cases hnil
    · exact lookup_of_mem hnodup hstart
  · intro id state hfound
    exact (hids _ (mem_of_lookup hfound)).1
  · intro id cost hfound
    obtain ⟨-, state, hstate⟩ := hcost.mp hfound
    exact ⟨none, by unfold startSearch; simp [hstate]⟩
  · intro id hid
    cases hid

/-! ## The loop -/

section Loop

variable {rt : FieldRuntime} {field : RelationalField σ} {base floor : ℚ} {starts : List σ}
  {expand : σ → Except PyError (List σ)} {goal : σ → Except PyError Bool} {search : Search σ}
  {entry : ℚ × String × σ} {frontier : List (ℚ × String × σ)}

/-- Entries that are out of date may be dropped. -/
theorem SearchInv.drop
    (h : SearchInv rt field base starts expand goal floor (fun _ _ => False) search)
    (hpop : search.popFresh search.frontier = some (entry, frontier)) :
    SearchInv rt field base starts expand goal floor (fun _ _ => False)
      { search with frontier := entry :: frontier } := by
  obtain ⟨⟨stale, hfrontier, hstale⟩, -, -⟩ := popFresh_some hpop
  have hmem : ∀ {e}, e ∈ entry :: frontier → e ∈ search.frontier := by
    intro e he
    rw [hfrontier]
    exact List.mem_append_right _ he
  refine ⟨?_, ?_, fun e he => h.entries e (hmem he), h.ids, h.parents, h.nodup, h.goals⟩
  · refine h.inv.drop (fun e he => ?_) ?_
    · obtain ⟨state, hentry⟩ := he
      exact ⟨state, hmem hentry⟩
    · rintro id cost hcost hopen ⟨state, hentry⟩
      rw [hfrontier] at hentry
      rcases List.mem_append.mp hentry with hold | hnew
      · rcases hstale _ hold with hexpanded | hother
        · exact absurd hexpanded hopen
        · exact absurd hcost hother
      · exact ⟨state, hnew⟩
  · have hsorted := h.sorted
    rw [hfrontier] at hsorted
    exact (List.pairwise_append.mp hsorted).2.1

theorem SearchInv.head_le {pending : String → σ → Prop}
    (h : SearchInv rt field base starts expand goal floor pending search)
    (hfrontier : search.frontier = entry :: frontier) : ∀ e ∈ search.labels.queue, entry.1 ≤ e.1 := by
  rintro e ⟨state, hentry⟩
  have hsorted := h.sorted
  rw [hfrontier] at hentry hsorted
  rcases List.mem_cons.mp hentry with rfl | hentry
  · exact le_refl _
  · exact (List.rel_of_pairwise_cons hsorted hentry).cost_le

theorem SearchInv.least
    (h : SearchInv rt field base starts expand goal floor (fun _ _ => False) search)
    (hpop : search.popFresh search.frontier = some (entry, frontier)) {states : List σ} {cost : ℚ}
    {state : σ} (hroute : Route (field.graph rt base starts expand goal) states cost state)
    (hgoal : goal state = .ok true) : entry.1 ≤ cost :=
  (h.drop hpop).inv.least ((h.drop hpop).head_le rfl) (h.goals) hroute hgoal

/-- The state that is taken is settled, if it is not a goal. -/
theorem SearchInv.settle
    (h : SearchInv rt field base starts expand goal floor (fun _ _ => False) search)
    (hpop : search.popFresh search.frontier = some (entry, frontier))
    (hgoal : goal entry.2.2 ≠ .ok true) :
    SearchInv rt field base starts expand goal entry.1 (fun id _ => id = entry.2.1)
      { search with frontier, expanded := entry.2.1 :: search.expanded } := by
  have hdropped := h.drop hpop
  obtain ⟨-, hopen, hcost⟩ := popFresh_some hpop
  have hstate : search.stateById entry.2.1 = some entry.2.2 :=
    hdropped.entries entry (List.mem_cons_self ..)
  refine ⟨?_, (List.pairwise_cons.mp hdropped.sorted).2,
    fun e he => hdropped.entries e (List.mem_cons_of_mem _ he), h.ids, h.parents,
    List.nodup_cons.mpr ⟨hopen, h.nodup⟩, ?_⟩
  · have hsettled : Inv (field.graph rt base starts expand goal) field.nameOf entry.1
        (fun j _ => j = entry.2.1 ∨ False)
        { search.labels.settle entry.2.1 with
          queue := {e | ∃ state, (e.1, e.2, state) ∈ frontier} } := by
      apply hdropped.inv.settle hcost hopen _ _ (hdropped.head_le rfl)
      · rintro e ⟨state, hentry⟩
        exact ⟨state, List.mem_cons_of_mem _ hentry⟩
      · rintro e ⟨state, hentry⟩ hne
        rcases List.mem_cons.mp hentry with heq | hentry
        · exact absurd (by rw [← heq]) hne
        · exact ⟨state, hentry⟩
    have hlabels : Search.labels { search with frontier, expanded := entry.2.1 :: search.expanded } =
        { search.labels.settle entry.2.1 with
          queue := {e | ∃ state, (e.1, e.2, state) ∈ frontier} } := by
      unfold Search.labels Labels.settle
      congr 1
      ext id
      exact List.mem_cons
    rw [← hlabels] at hsettled
    apply hsettled.done
    rintro id s t w - - (hid | hfalse) hpending hstep
    · exact absurd hid hpending
    · exact hfalse.elim
  · intro id hid state hs
    rcases List.mem_cons.mp hid with rfl | hid
    · obtain rfl : entry.2.2 = state := Option.some.inj (hstate.symm.trans hs)
      exact hgoal
    · exact h.goals id hid state hs

theorem SearchInv.unreachable
    (h : SearchInv rt field base starts expand goal floor (fun _ _ => False) search)
    (hpop : search.popFresh search.frontier = none) {states : List σ} {cost : ℚ} {state : σ}
    (hroute : Route (field.graph rt base starts expand goal) states cost state) :
    goal state ≠ .ok true := by
  have hempty : Inv (field.graph rt base starts expand goal) field.nameOf floor (fun _ _ => False)
      { search.labels with queue := ∅ } := by
    apply h.inv.drop (Set.empty_subset _)
    rintro id cost hcost hopen ⟨state, hentry⟩
    rcases popFresh_none hpop _ hentry with hexpanded | hother
    · exact absurd hexpanded hopen
    · exact absurd hcost hother
  exact hempty.unreachable rfl h.goals hroute

/-- The goal was found by way of the states of a cheapest route to it. -/
structure Found (rt : FieldRuntime) (field : RelationalField σ) (base : ℚ) (starts : List σ)
    (expand : σ → Except PyError (List σ)) (goal : σ → Except PyError Bool) (search : Search σ)
    (id : String) (states : List σ) (cost : ℚ) (state : σ) : Prop where
  isGoal : goal state = .ok true
  route : Route (field.graph rt base starts expand goal) states cost state
  attained : search.bestCost id = some cost
  follows : Follows search.labels.parent (states.map field.nameOf) id
  nodup : (states.map field.nameOf).Nodup
  expanded : ∀ j ∈ states.map field.nameOf, j ∈ search.expanded
  parents : ∀ j ∈ states.map field.nameOf, ∃ parent, search.parent j = some parent
  least : ∀ {states' cost' state'}, Route (field.graph rt base starts expand goal) states' cost' state' →
    goal state' = .ok true → cost ≤ cost'

/-- The goal that is taken has been found. -/
theorem SearchInv.found
    (h : SearchInv rt field base starts expand goal floor (fun _ _ => False) search)
    (hpop : search.popFresh search.frontier = some (entry, frontier))
    (hgoal : goal entry.2.2 = .ok true) :
    ∃ states, Found rt field base starts expand goal
      { search with frontier, expanded := entry.2.1 :: search.expanded } entry.2.1 states entry.1
      entry.2.2 := by
  obtain ⟨-, -, hcost⟩ := popFresh_some hpop
  have hstate : search.stateById entry.2.1 = some entry.2.2 :=
    (h.drop hpop).entries entry (List.mem_cons_self ..)
  obtain ⟨states, s, hs, hroute, hfollows, hnodup, hchain⟩ := h.inv.attained hcost
  obtain rfl : entry.2.2 = s := Option.some.inj (hstate.symm.trans hs)
  refine ⟨states, hgoal, hroute, hcost, hfollows, hnodup, ?_, ?_, h.least hpop⟩
  · intro j hj
    by_cases hne : j = entry.2.1
    · exact List.mem_cons.mpr (Or.inl hne)
    · exact List.mem_cons_of_mem _ (hchain j hj hne)
  · intro j hj
    by_cases hne : j = entry.2.1
    · exact h.parents (hne ▸ hcost)
    · obtain ⟨c, hc⟩ := h.inv.known (hchain j hj hne)
      exact h.parents hc

theorem wrapped_eq_ok {α : Type} {message : String} {result : Except PyError α} {value : α} :
    wrapped message result = .ok value ↔ result = .ok value := by
  unfold wrapped
  cases result with
  | ok other => exact Iff.rfl
  | error e => by_cases hexception : e.cls.isException = true <;> simp [hexception]

/-- One round that does not end the search. -/
theorem SearchInv.round [DecidableEq σ] {search' : Search σ} {neighbors : List σ}
    {named : List (String × σ)}
    (h : SearchInv rt field base starts expand goal floor (fun _ _ => False) search)
    (hpop : search.popFresh search.frontier = some (entry, frontier))
    (hgoal : goal entry.2.2 ≠ .ok true) (hexpand : expand entry.2.2 = .ok neighbors)
    (hnamed : field.sortById neighbors = .ok named)
    (hrelax : named.foldlM (relax rt field base entry.1 entry.2.1 entry.2.2)
      { search with frontier, expanded := entry.2.1 :: search.expanded } = .ok search') :
    SearchInv rt field base starts expand goal entry.1 (fun _ _ => False) search' := by
  obtain ⟨hperm, -, hids⟩ := sortById_eq_ok hnamed
  obtain ⟨-, -, hcost⟩ := popFresh_some hpop
  have hstate : search.stateById entry.2.1 = some entry.2.2 :=
    (h.drop hpop).entries entry (List.mem_cons_self ..)
  obtain ⟨hextends, -⟩ := relaxAll_extends hrelax
  have hrelaxed := relaxAll_spec hexpand hids (h.settle hpop hgoal) (List.mem_cons_self ..) hcost
    hstate hrelax
  refine { hrelaxed with inv := hrelaxed.inv.done ?_ }
  -- every step leads to a neighbour, and all of them have been relaxed
  rintro id s t w - hs ⟨rfl, hnot⟩ - ⟨⟨neighbors', hexpand', ht⟩, -⟩
  obtain rfl : entry.2.2 = s := Option.some.inj ((hextends.states hstate).symm.trans hs)
  obtain rfl : neighbors = neighbors' := Except.ok.inj (hexpand.symm.trans hexpand')
  refine absurd ⟨rfl, ?_⟩ hnot
  exact List.mem_map.mpr
    ⟨(field.nameOf t, t), hperm.mem_iff.mpr (List.mem_map_of_mem ht), rfl⟩

/-- How the loop ends. The induction is on the rounds.
SOURCE: core/relational_field.py:340-393 -/
theorem searchLoop_spec [DecidableEq σ] {maxStates : ℤ} {rounds : ℕ} {result : SearchEnd σ}
    (h : SearchInv rt field base starts expand goal floor (fun _ _ => False) search)
    (hbound : (search.expanded.length : ℤ) < maxStates)
    (hloop : searchLoop rt field expand goal base maxStates rounds search = .ok result) :
    result.search.expanded.Nodup ∧ (result.search.expanded.length : ℤ) ≤ maxStates ∧
      ((result.status = "found" ∧ ∃ id states cost state, result.goalId = some id ∧
          Found rt field base starts expand goal result.search id states cost state) ∨
        (result.status = "exhausted_over_observed_graph" ∧ result.goalId = none ∧
          ∀ {states cost state}, Route (field.graph rt base starts expand goal) states cost state →
            goal state ≠ .ok true) ∨
        (result.status = "limit_reached" ∧ result.goalId = none)) := by
  induction rounds generalizing search floor with
  | zero => cases hloop
  | succ rounds ih =>
      unfold searchLoop at hloop
      cases hpop : search.popFresh search.frontier with
      | none =>
          rw [hpop] at hloop
          obtain rfl := Except.ok.inj hloop
          exact ⟨h.nodup, hbound.le, Or.inr (Or.inl ⟨rfl, rfl, h.unreachable hpop⟩)⟩
      | some found =>
          obtain ⟨⟨cost, id, state⟩, frontier⟩ := found
          rw [hpop] at hloop
          dsimp only at hloop
          obtain ⟨hnew, -⟩ := (popFresh_some hpop).2
          have hnodup : (id :: search.expanded).Nodup := List.nodup_cons.mpr ⟨hnew, h.nodup⟩
          have hlength : ((id :: search.expanded).length : ℤ) ≤ maxStates := by
            rw [List.length_cons]
            push_cast
            omega
          obtain ⟨isGoal, hgoal, hloop⟩ := bind_eq_ok.mp hloop
          rw [wrapped_eq_ok] at hgoal
          cases isGoal with
          | true =>
              rw [if_pos rfl] at hloop
              obtain rfl := Except.ok.inj hloop
              obtain ⟨states, hfound⟩ := h.found hpop hgoal
              exact ⟨hnodup, hlength, Or.inl ⟨rfl, id, states, cost, state, rfl, hfound⟩⟩
          | false =>
              rw [if_neg Bool.false_ne_true] at hloop
              by_cases hlimit : maxStates ≤ ((id :: search.expanded).length : ℤ)
              · rw [if_pos hlimit] at hloop
                obtain rfl := Except.ok.inj hloop
                exact ⟨hnodup, hlength, Or.inr (Or.inr ⟨rfl, rfl⟩)⟩
              · rw [if_neg hlimit] at hloop
                obtain ⟨neighbors, hexpand, hloop⟩ := bind_eq_ok.mp hloop
                obtain ⟨named, hnamed, hloop⟩ := bind_eq_ok.mp hloop
                obtain ⟨search', hrelax, hloop⟩ := bind_eq_ok.mp hloop
                have hround := h.round hpop (by rw [hgoal]; decide) (wrapped_eq_ok.mp hexpand) hnamed
                  hrelax
                have hexpanded := (relaxAll_extends hrelax).1.expanded
                exact ih hround (hexpanded ▸ not_le.mp hlimit) hloop

end Loop

/-! ## The way back -/

/-- Following the parents back, with one round for each name. -/
theorem followParents_spec {parent : String → Option (Option String)} {names : List String}
    {id : String} (h : Follows (fun id => (parent id).join) names id)
    (hknown : ∀ j ∈ names, ∃ next, parent j = some next) {rounds : ℕ} (hrounds : names.length ≤ rounds) :
    followParents parent rounds (some id) = .ok names.reverse := by
  induction h generalizing rounds with
  | @root k hroot =>
      obtain ⟨rounds, rfl⟩ : ∃ n, rounds = n + 1 := ⟨rounds - 1, by simp at hrounds; omega⟩
      obtain ⟨next, hnext⟩ := hknown k (List.mem_singleton_self k)
      rw [hnext] at hroot
      obtain rfl : next = none := hroot
      unfold followParents
      rw [hnext]
      unfold followParents
      rfl
  | @child names j k hchild before ih =>
      rw [List.length_append, List.length_singleton] at hrounds
      obtain ⟨rounds, rfl⟩ : ∃ n, rounds = n + 1 := ⟨rounds - 1, by omega⟩
      obtain ⟨next, hnext⟩ := hknown k (by simp)
      rw [hnext] at hchild
      obtain rfl : next = some j := hchild
      unfold followParents
      rw [hnext]
      dsimp only
      rw [ih (fun i hi => hknown i (List.mem_append_left _ hi)) (by omega), List.reverse_append]
      rfl

theorem Found.followParents {rt : FieldRuntime} {field : RelationalField σ} {base : ℚ}
    {starts : List σ} {expand : σ → Except PyError (List σ)} {goal : σ → Except PyError Bool}
    {search : Search σ} {id : String} {states : List σ} {cost : ℚ} {state : σ}
    (h : Found rt field base starts expand goal search id states cost state) :
    RelationalField.followParents search.parent search.expanded.length (some id) =
      .ok (states.map field.nameOf).reverse :=
  followParents_spec h.follows h.parents (List.subperm_of_subset h.nodup h.expanded).length_le

/-! ## Order -/

section Order

variable {rt : FieldRuntime} {field : RelationalField σ} {base : ℚ}
  {expand expand' : σ → Except PyError (List σ)} {goal : σ → Except PyError Bool}

/-- The loop does not depend on the order of the neighbours. -/
theorem searchLoop_perm [DecidableEq σ] {maxStates : ℤ} {rounds : ℕ} {search : Search σ}
    {result : SearchEnd σ}
    (hexpand : ∀ state neighbors, expand state = .ok neighbors →
      ∃ neighbors', expand' state = .ok neighbors' ∧ neighbors.Perm neighbors')
    (hloop : searchLoop rt field expand goal base maxStates rounds search = .ok result) :
    searchLoop rt field expand' goal base maxStates rounds search = .ok result := by
  induction rounds generalizing search with
  | zero => cases hloop
  | succ rounds ih =>
      unfold searchLoop at hloop ⊢
      cases hpop : search.popFresh search.frontier with
      | none =>
          rw [hpop] at hloop
          exact hloop
      | some found =>
          obtain ⟨⟨cost, id, state⟩, frontier⟩ := found
          rw [hpop] at hloop
          dsimp only at hloop ⊢
          obtain ⟨isGoal, hgoal, hloop⟩ := bind_eq_ok.mp hloop
          refine bind_eq_ok.mpr ⟨isGoal, hgoal, ?_⟩
          cases isGoal with
          | true => exact hloop
          | false =>
              rw [if_neg Bool.false_ne_true] at hloop ⊢
              by_cases hlimit : maxStates ≤ ((id :: search.expanded).length : ℤ)
              · rw [if_pos hlimit] at hloop ⊢
                exact hloop
              · rw [if_neg hlimit] at hloop ⊢
                obtain ⟨neighbors, hneighbors, hloop⟩ := bind_eq_ok.mp hloop
                obtain ⟨named, hnamed, hloop⟩ := bind_eq_ok.mp hloop
                obtain ⟨search', hrelax, hloop⟩ := bind_eq_ok.mp hloop
                obtain ⟨neighbors', hneighbors', hperm⟩ :=
                  hexpand state neighbors (wrapped_eq_ok.mp hneighbors)
                have hstates := (relaxAll_extends hrelax).2
                have hunique : ∀ a ∈ named, ∀ b ∈ named, a.1 = b.1 → a = b := by
                  intro a ha b hb hab
                  have hstate := hstates b hb
                  rw [← hab, hstates a ha] at hstate
                  exact Prod.ext hab (Option.some.inj hstate)
                refine bind_eq_ok.mpr ⟨neighbors', wrapped_eq_ok.mpr hneighbors', ?_⟩
                refine bind_eq_ok.mpr ⟨named, sortById_perm hperm hnamed hunique, ?_⟩
                exact bind_eq_ok.mpr ⟨search', hrelax, ih hloop⟩

end Order

/-! ## Optimality -/

section Optimality

variable {rt : FieldRuntime} {field : RelationalField σ} {starts : List σ}
  {expand : σ → Except PyError (List σ)} {goal : σ → Except PyError Bool} {baseCost : PyReal}
  {maxStates : ℤ} {receipt : FieldPathReceipt}

/-- The result does not depend on the order of the starts and of the neighbours. -/
theorem leastCostPath_perm [DecidableEq σ] {starts' : List σ} {expand' : σ → Except PyError (List σ)}
    (h : field.leastCostPath rt starts expand goal baseCost maxStates = .ok receipt)
    (hstarts : starts.Perm starts')
    (hexpand : ∀ state neighbors, expand state = .ok neighbors →
      ∃ neighbors', expand' state = .ok neighbors' ∧ neighbors.Perm neighbors') :
    field.leastCostPath rt starts' expand' goal baseCost maxStates = .ok receipt := by
  unfold leastCostPath at h ⊢
  obtain ⟨base, hbase, h⟩ := bind_eq_ok.mp h
  obtain ⟨_, hmax, h⟩ := bind_eq_ok.mp h
  obtain ⟨named, hnamed, h⟩ := bind_eq_ok.mp h
  obtain ⟨_, hunique, h⟩ := bind_eq_ok.mp h
  obtain ⟨result, hloop, h⟩ := bind_eq_ok.mp h
  have hnodup : (named.map (·.1)).Nodup := not_not.mp (raiseIf_eq_ok.mp hunique)
  have hsame : ∀ a ∈ named, ∀ b ∈ named, a.1 = b.1 → a = b :=
    fun a ha b hb hab => List.inj_on_of_nodup_map hnodup ha hb hab
  refine bind_eq_ok.mpr ⟨base, hbase, bind_eq_ok.mpr ⟨_, hmax, ?_⟩⟩
  refine bind_eq_ok.mpr ⟨named, sortById_perm hstarts hnamed hsame, ?_⟩
  refine bind_eq_ok.mpr ⟨_, hunique, ?_⟩
  exact bind_eq_ok.mpr ⟨result, searchLoop_perm hexpand hloop, h⟩

theorem requireId_of_leastCostPath [DecidableEq σ]
    (h : field.leastCostPath rt starts expand goal baseCost maxStates = .ok receipt) :
    ∀ state ∈ starts, field.requireId state = .ok (field.nameOf state) := by
  unfold leastCostPath at h
  obtain ⟨base, -, h⟩ := bind_eq_ok.mp h
  obtain ⟨_, -, h⟩ := bind_eq_ok.mp h
  obtain ⟨named, hnamed, h⟩ := bind_eq_ok.mp h
  obtain ⟨hperm, -, hids⟩ := sortById_eq_ok hnamed
  intro state hstate
  exact (hids _ (hperm.mem_iff.mpr (List.mem_map_of_mem hstate))).1

/-- The states of a route have names. -/
theorem requireId_of_route {base cost : ℚ} {states : List σ} {state : σ}
    (hroute : Route (field.graph rt base starts expand goal) states cost state)
    (hstarts : ∀ state ∈ starts, field.requireId state = .ok (field.nameOf state)) :
    ∀ state ∈ states, field.requireId state = .ok (field.nameOf state) := by
  induction hroute with
  | start hstart =>
      intro s hs
      obtain rfl := List.mem_singleton.mp hs
      exact hstarts _ hstart
  | @step states c w s t before hstep ih =>
      intro u hu
      rcases List.mem_append.mp hu with hold | hnew
      · exact ih u hold
      · obtain rfl := List.mem_singleton.mp hnew
        obtain ⟨-, receipt, hassess, -⟩ := hstep
        unfold assessTransition at hassess
        obtain ⟨_, _, hassess⟩ := ok_past_two hassess
        obtain ⟨id, hid, -⟩ := bind_eq_ok.mp hassess
        rw [nameOf_eq hid]
        exact hid

/-- MAIN: **a path that is found is one of admissible transitions from a start to a goal, its costs
sum to `total_cost`, and no path to a goal costs less; where the search is exhausted no goal is
reachable; no more states are expanded than are allowed; and neither the order of the starts nor that
of the neighbours matters.** -/
theorem leastCostPath_optimal [DecidableEq σ]
    (h : field.leastCostPath rt starts expand goal baseCost maxStates = .ok receipt) :
    ∃ base, baseCost = .number base ∧
      (receipt.status = "found" → ∃ states cost state,
        Route (field.graph rt base starts expand goal) states cost state ∧ goal state = .ok true ∧
        receipt.pathIds = states.map field.nameOf ∧ receipt.totalCost = some cost ∧
        ∀ {states' cost' state'},
          Route (field.graph rt base starts expand goal) states' cost' state' →
          goal state' = .ok true → cost ≤ cost') ∧
      (receipt.status = "exhausted_over_observed_graph" → ∀ {states cost state},
        Route (field.graph rt base starts expand goal) states cost state → goal state ≠ .ok true) ∧
      (receipt.statesExpanded : ℤ) ≤ maxStates ∧
      ∀ {starts' : List σ} {expand' : σ → Except PyError (List σ)}, starts.Perm starts' →
        (∀ state neighbors, expand state = .ok neighbors →
          ∃ neighbors', expand' state = .ok neighbors' ∧ neighbors.Perm neighbors') →
        field.leastCostPath rt starts' expand' goal baseCost maxStates = .ok receipt := by
  have horder : ∀ {starts' : List σ} {expand' : σ → Except PyError (List σ)}, starts.Perm starts' →
      (∀ state neighbors, expand state = .ok neighbors →
        ∃ neighbors', expand' state = .ok neighbors' ∧ neighbors.Perm neighbors') →
      field.leastCostPath rt starts' expand' goal baseCost maxStates = .ok receipt :=
    fun hstarts hexpand => leastCostPath_perm h hstarts hexpand
  unfold leastCostPath at h
  obtain ⟨base, hbase, h⟩ := bind_eq_ok.mp h
  obtain ⟨_, hmax, h⟩ := bind_eq_ok.mp h
  obtain ⟨named, hnamed, h⟩ := bind_eq_ok.mp h
  obtain ⟨_, hunique, h⟩ := bind_eq_ok.mp h
  obtain ⟨result, hloop, h⟩ := bind_eq_ok.mp h
  obtain ⟨path, hpath, h⟩ := bind_eq_ok.mp h
  have hinv : SearchInv rt field base starts expand goal 0 (fun _ _ => False) (startSearch named) :=
    searchInv_start hnamed (not_not.mp (raiseIf_eq_ok.mp hunique))
  have hpositive : ((startSearch named).expanded.length : ℤ) < maxStates := by
    have hone := raiseIf_eq_ok.mp hmax
    show (0 : ℤ) < maxStates
    omega
  obtain ⟨-, hlength, hend⟩ := searchLoop_spec hinv hpositive hloop
  obtain rfl := Except.ok.inj h
  refine ⟨base, (requireNonnegativeFinite_eq_ok.mp hbase).1, ?_, ?_, hlength, horder⟩
  · intro hstatus
    rcases hend with ⟨-, id, states, cost, state, hid, hfound⟩ | ⟨hother, -⟩ | ⟨hother, -⟩
    · refine ⟨states, cost, state, hfound.route, hfound.isGoal, ?_, ?_, hfound.least⟩
      · have hback := hfound.followParents
        rw [hid, hback] at hpath
        show path.reverse = _
        rw [← Except.ok.inj hpath, List.reverse_reverse]
      · show result.goalId.bind result.search.bestCost = _
        rw [hid]
        exact hfound.attained
    · exact absurd (hother.symm.trans hstatus) (by decide)
    · exact absurd (hother.symm.trans hstatus) (by decide)
  · intro hstatus
    rcases hend with ⟨hother, -⟩ | ⟨-, -, hnone⟩ | ⟨hother, -⟩
    · exact absurd (hother.symm.trans hstatus) (by decide)
    · exact hnone
    · exact absurd (hother.symm.trans hstatus) (by decide)

/-- A field on three states: from `a` the detour by way of `b` is cheaper than the way to `c`. -/
def detour : RelationalField String where
  stateId := .ok
  axes := []
  relationCosts := [{
    name := "distance"
    evaluate := fun source target => .ok (.number (if source = "a" ∧ target = "c" then 5 else 0)) }]
  constraints := [{ name := "no-return", predicate := fun _ target => .ok (target ≠ "a") }]

/-- The neighbours of the states of `detour`. -/
def detourExpand (state : String) : Except PyError (List String) :=
  .ok (if state = "a" then ["c", "b"] else if state = "b" then ["a", "c"] else [])

/-- WITNESS: the detour is found, and no other way to `c` is cheaper. -/
theorem leastCostPath_optimal_detour :
    ∃ receipt, detour.leastCostPath ⟨fun _ => "", fun _ => ""⟩ ["a"] detourExpand
        (fun state => .ok (state = "c")) (.number 1) 10 = .ok receipt ∧
      receipt.pathIds = ["a", "b", "c"] ∧ receipt.totalCost = some 2 ∧
      ∀ states cost state, Route (detour.graph ⟨fun _ => "", fun _ => ""⟩ 1 ["a"] detourExpand
        fun state => .ok (state = "c")) states cost state → state = "c" → 2 ≤ cost := by
  have hrun : (detour.leastCostPath ⟨fun _ => "", fun _ => ""⟩ ["a"] detourExpand
      (fun state => .ok (state = "c")) (.number 1) 10).map
        (fun receipt => (receipt.status, receipt.pathIds, receipt.totalCost)) =
      .ok ("found", ["a", "b", "c"], some 2) := by
    decide +kernel
  cases h : detour.leastCostPath ⟨fun _ => "", fun _ => ""⟩ ["a"] detourExpand
      (fun state => .ok (state = "c")) (.number 1) 10 with
  | error e =>
      rw [h] at hrun
      cases hrun
  | ok receipt =>
      rw [h] at hrun
      obtain ⟨hstatus, hrest⟩ := Prod.mk.inj (Except.ok.inj hrun)
      obtain ⟨hids, hcost⟩ := Prod.mk.inj hrest
      obtain ⟨base, hbase, hfound, -⟩ := leastCostPath_optimal h
      obtain rfl : 1 = base := PyReal.number.inj hbase
      obtain ⟨states, cost, state, -, -, -, htotal, hleast⟩ := hfound hstatus
      obtain rfl : 2 = cost := Option.some.inj (hcost.symm.trans htotal)
      refine ⟨receipt, rfl, hids, hcost, ?_⟩
      rintro states' cost' state' hroute rfl
      exact hleast hroute (by decide)

end Optimality

end RelationalField

end PhiOS
