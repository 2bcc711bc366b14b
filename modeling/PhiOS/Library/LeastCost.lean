import Mathlib.Algebra.Order.Monoid.Defs
import Mathlib.Data.List.Nodup
import Mathlib.Data.Set.Insert
import Mathlib.Logic.Function.Basic

/-!
# Best-first search

A graph has starts, goals and steps with costs that are not negative; its states are told apart by
names. A best-first search keeps for each name a state, the cost of the best route that it has seen
and the name that this route comes from; it settles names in the order of their costs and relaxes
the steps out of each. Entries of its queue may be out of date: a name that has become cheaper is
queued again.

`Inv` is what holds between any two operations of such a search, for a floor that separates the
settled costs from the queued ones; each operation has a lemma. What a search may conclude from it
is `Inv.least` where it takes a goal off the queue, and `Inv.unreachable` where the queue is empty.
-/

set_option autoImplicit false

namespace LeastCost

/-- A graph with starts, goals and steps that have a cost. -/
structure Graph (σ C : Type) [Zero C] [LE C] where
  start : σ → Prop
  goal : σ → Prop
  step : σ → σ → C → Prop
  nonneg : ∀ {s t c}, step s t c → 0 ≤ c

variable {σ κ C : Type} [AddCommMonoid C] [LinearOrder C]

/-- The routes from a start, each with its states and its cost. -/
inductive Route (g : Graph σ C) : List σ → C → σ → Prop
  | start {s : σ} (h : g.start s) : Route g [s] 0 s
  | step {states : List σ} {c w : C} {s t : σ} (before : Route g states c s) (h : g.step s t w) :
      Route g (states ++ [t]) (c + w) t

/-- The states follow each other by steps that cost so much together. -/
inductive Walk (g : Graph σ C) : List σ → C → Prop
  | last (s : σ) : Walk g [s] 0
  | step {states : List σ} {c w : C} {s t : σ} (h : g.step s t w) (rest : Walk g (t :: states) c) :
      Walk g (s :: t :: states) (w + c)

/-- What the search keeps. -/
structure Labels (σ κ C : Type) where
  state : κ → Option σ
  cost : κ → Option C
  parent : κ → Option κ
  settled : Set κ
  queue : Set (C × κ)

/-- The names that the parents lead back over, from the first to `k`. -/
inductive Follows (parent : κ → Option κ) : List κ → κ → Prop
  | root {k : κ} (h : parent k = none) : Follows parent [k] k
  | child {names : List κ} {j k : κ} (h : parent k = some j) (before : Follows parent names j) :
      Follows parent (names ++ [k]) k

/-- The cost of a name is that of a route that the parents lead back over. -/
def Attained (g : Graph σ C) (name : σ → κ) (L : Labels σ κ C) (k : κ) (c : C) : Prop :=
  ∃ states s, L.state k = some s ∧ Route g states c s ∧ Follows L.parent (states.map name) k ∧
    (states.map name).Nodup ∧ ∀ j ∈ states.map name, j ≠ k → j ∈ L.settled

/-- A step has been taken into account. -/
def Relaxed (name : σ → κ) (L : Labels σ κ C) (k : κ) (t : σ) (w : C) : Prop :=
  L.state (name t) = some t ∧
    ∃ c c', L.cost k = some c ∧ L.cost (name t) = some c' ∧ c' ≤ c + w

/-- What holds between two operations. The steps that are still to be taken into account are
`pending`. -/
structure Inv (g : Graph σ C) (name : σ → κ) (floor : C) (pending : κ → σ → Prop)
    (L : Labels σ κ C) : Prop where
  named : ∀ {k s}, L.state k = some s → name s = k
  starts : ∀ {s}, g.start s → L.state (name s) = some s ∧ ∃ c, L.cost (name s) = some c ∧ c ≤ 0
  attained : ∀ {k c}, L.cost k = some c → Attained g name L k c
  queued : ∀ {k c}, L.cost k = some c → k ∉ L.settled → (c, k) ∈ L.queue
  known : ∀ {k}, k ∈ L.settled → ∃ c, L.cost k = some c
  low : ∀ {k c}, k ∈ L.settled → L.cost k = some c → c ≤ floor
  high : ∀ {k c}, (c, k) ∈ L.queue → floor ≤ c
  closed : ∀ {k s t w}, k ∈ L.settled → L.state k = some s → ¬ pending k t → g.step s t w →
    Relaxed name L k t w

section Routes

variable {g : Graph σ C} {name : σ → κ} {parent : κ → Option κ} {names : List κ} {k : κ}

theorem Follows.ne_nil (h : Follows parent names k) : names ≠ [] := by
  cases h <;> simp

theorem Follows.mem (h : Follows parent names k) : k ∈ names := by
  cases h <;> simp

theorem Follows.congr {parent' : κ → Option κ} (h : Follows parent names k)
    (hsame : ∀ j ∈ names, parent' j = parent j) : Follows parent' names k := by
  induction h with
  | root h => exact .root ((hsame _ (by simp)).trans h)
  | child h before ih =>
      refine .child ((hsame _ (by simp)).trans h) (ih fun j hj => hsame j ?_)
      exact List.mem_append_left _ hj

theorem Route.ne_nil {states : List σ} {c : C} {s : σ} (h : Route g states c s) : states ≠ [] := by
  cases h <;> simp

theorem Route.getLast? {states : List σ} {c : C} {s : σ} (h : Route g states c s) :
    states.getLast? = some s := by
  cases h <;> simp

theorem Walk.snoc {states : List σ} {c w : C} {s t : σ} (h : Walk g states c)
    (hlast : states.getLast? = some s) (hstep : g.step s t w) :
    Walk g (states ++ [t]) (c + w) := by
  induction h with
  | last s' =>
      obtain rfl : s' = s := Option.some.inj hlast
      have hwalk := Walk.step hstep (.last t)
      rwa [add_comm w 0] at hwalk
  | step hfirst rest ih =>
      rw [add_assoc]
      exact .step hfirst (ih (by simpa using hlast))

theorem Route.walk {states : List σ} {c : C} {s : σ} (h : Route g states c s) :
    Walk g states c ∧ ∃ start, g.start start ∧ states.head? = some start := by
  induction h with
  | start h => exact ⟨.last _, _, h, rfl⟩
  | @step states c w s t before hstep ih =>
      obtain ⟨hwalk, start, hstart, hhead⟩ := ih
      refine ⟨hwalk.snoc before.getLast? hstep, start, hstart, ?_⟩
      rw [List.head?_append, hhead]
      rfl

theorem Route.append {states rest : List σ} {c d : C} {s : σ} (h : Route g states c s)
    (hwalk : Walk g (s :: rest) d) :
    ∃ t, (s :: rest).getLast? = some t ∧ Route g (states ++ rest) (c + d) t := by
  induction rest generalizing states c d s with
  | nil =>
      cases hwalk
      refine ⟨s, rfl, ?_⟩
      rw [List.append_nil, add_zero]
      exact h
  | cons t rest ih =>
      cases hwalk with
      | step hstep hrest =>
          obtain ⟨last, hlast, hroute⟩ := ih (h.step hstep) hrest
          refine ⟨last, by rwa [List.getLast?_cons_cons], ?_⟩
          rwa [List.append_assoc, List.singleton_append, add_assoc] at hroute

theorem Walk.route {states : List σ} {c : C} {s : σ} (h : Walk g (s :: states) c)
    (hstart : g.start s) :
    ∃ t, (s :: states).getLast? = some t ∧ Route g (s :: states) c t := by
  obtain ⟨t, hlast, hroute⟩ := (Route.start hstart).append h
  rw [zero_add] at hroute
  exact ⟨t, hlast, hroute⟩

end Routes

/-! ## Operations -/

section Weaker

variable {g : Graph σ C} {name : σ → κ} {floor : C} {pending : κ → σ → Prop} {L : Labels σ κ C}

theorem Inv.done (h : Inv g name floor pending L) {pending' : κ → σ → Prop}
    (hdone : ∀ {k s t w}, k ∈ L.settled → L.state k = some s → pending k t → ¬ pending' k t →
      g.step s t w → Relaxed name L k t w) : Inv g name floor pending' L := by
  refine { h with closed := ?_ }
  intro k s t w hk hs hpending' hstep
  by_cases hpending : pending k t
  · exact hdone hk hs hpending hpending' hstep
  · exact h.closed hk hs hpending hstep

theorem Inv.drop (h : Inv g name floor pending L) {queue : Set (C × κ)} (hsub : queue ⊆ L.queue)
    (hkept : ∀ {k c}, L.cost k = some c → k ∉ L.settled → (c, k) ∈ L.queue → (c, k) ∈ queue) :
    Inv g name floor pending { L with queue := queue } :=
  { h with
    queued := fun hc hk => hkept hc hk (h.queued hc hk)
    high := fun hck => h.high (hsub hck) }

end Weaker

section Operations

variable [DecidableEq κ]

/-- A state that is seen for the first time gets its name. -/
def Labels.observe (L : Labels σ κ C) (name : σ → κ) (t : σ) : Labels σ κ C :=
  { L with state := Function.update L.state (name t) (some t) }

/-- A better route to a name has been found, by way of `j`. -/
def Labels.improve (L : Labels σ κ C) (j : κ) (c : C) (k : κ) : Labels σ κ C :=
  { L with
    cost := Function.update L.cost k (some c)
    parent := Function.update L.parent k (some j)
    queue := insert (c, k) L.queue }

/-- A name is settled. -/
def Labels.settle (L : Labels σ κ C) (k : κ) : Labels σ κ C :=
  { L with settled := insert k L.settled }

variable {g : Graph σ C} {name : σ → κ} {floor : C} {pending : κ → σ → Prop} {L : Labels σ κ C}

/-- Naming a state that has its name already, or is seen for the first time. -/
theorem Inv.observe (h : Inv g name floor pending L) {t : σ}
    (ht : ∀ s, L.state (name t) = some s → s = t) :
    Inv g name floor pending (L.observe name t) := by
  have hkept : ∀ {k s}, L.state k = some s → (L.observe name t).state k = some s := by
    intro k s hs
    by_cases hk : k = name t
    · obtain rfl := hk
      obtain rfl := ht s hs
      exact Function.update_self ..
    · exact (Function.update_of_ne hk ..).trans hs
  have hold : ∀ {k s}, (L.observe name t).state k = some s → k ≠ name t → L.state k = some s :=
    fun hs hk => (Function.update_of_ne hk ..).symm.trans hs
  refine ⟨?_, ?_, ?_, h.queued, h.known, h.low, h.high, ?_⟩
  · intro k s hs
    by_cases hk : k = name t
    · obtain rfl := hk
      have hself : (L.observe name t).state (name t) = some t := Function.update_self ..
      obtain rfl : t = s := Option.some.inj (hself.symm.trans hs)
      rfl
    · exact h.named (hold hs hk)
  · intro s hs
    exact ⟨hkept (h.starts hs).1, (h.starts hs).2⟩
  · intro k c hc
    obtain ⟨states, s, hs, hrest⟩ := h.attained hc
    exact ⟨states, s, hkept hs, hrest⟩
  · intro k s u w hk hs hpending hstep
    obtain ⟨c, hc⟩ := h.known hk
    obtain ⟨states, s', hs', -⟩ := h.attained hc
    have hsame : s' = s := Option.some.inj ((hkept hs').symm.trans hs)
    obtain ⟨hu, hcosts⟩ := h.closed hk (hsame ▸ hs') hpending hstep
    exact ⟨hkept hu, hcosts⟩

/-- A step out of a name that has just been settled leads to a cheaper route. -/
theorem Inv.improve [IsOrderedAddMonoid C] (h : Inv g name floor pending L) {j : κ} {s t : σ} {w : C}
    (hj : j ∈ L.settled) (hcost : L.cost j = some floor) (hs : L.state j = some s)
    (hstep : g.step s t w) (ht : L.state (name t) = some t)
    (hbetter : ∀ c, L.cost (name t) = some c → floor + w < c) :
    Inv g name floor pending (L.improve j (floor + w) (name t)) := by
  have hfloor : floor ≤ floor + w := le_add_of_nonneg_right (g.nonneg hstep)
  -- a settled name is not made cheaper
  have hopen : name t ∉ L.settled := by
    intro hsettled
    obtain ⟨c, hc⟩ := h.known hsettled
    exact absurd ((hbetter c hc).trans_le (h.low hsettled hc)) (not_lt.mpr hfloor)
  have hcosts : ∀ {k c}, (L.improve j (floor + w) (name t)).cost k = some c → k ≠ name t →
      L.cost k = some c := fun hc hk => (Function.update_of_ne hk ..).symm.trans hc
  have hnew : (L.improve j (floor + w) (name t)).cost (name t) = some (floor + w) :=
    Function.update_self ..
  have hsettled : ∀ {k}, k ∈ L.settled → k ≠ name t := by
    rintro k hk rfl
    exact hopen hk
  have hold : ∀ {k c}, k ∈ L.settled →
      (L.improve j (floor + w) (name t)).cost k = some c → L.cost k = some c :=
    fun hk hc => hcosts hc (hsettled hk)
  refine ⟨h.named, ?_, ?_, ?_, ?_, ?_, ?_, ?_⟩
  · intro u hu
    obtain ⟨hstate, c, hc, hle⟩ := h.starts hu
    refine ⟨hstate, ?_⟩
    by_cases hk : name u = name t
    · rw [hk] at hc ⊢
      exact ⟨_, hnew, (hbetter c hc).le.trans hle⟩
    · exact ⟨c, (Function.update_of_ne hk ..).trans hc, hle⟩
  · intro k c hc
    by_cases hk : k = name t
    · obtain rfl := hk
      obtain rfl : floor + w = c := Option.some.inj (hnew.symm.trans hc)
      obtain ⟨states, s', hs', hroute, hfollows, hnodup, hchain⟩ := h.attained hcost
      obtain rfl : s = s' := Option.some.inj (hs.symm.trans hs')
      have hall : ∀ i ∈ states.map name, i ∈ L.settled := by
        intro i hi
        by_cases hij : i = j
        · exact hij ▸ hj
        · exact hchain i hi hij
      have hnot : name t ∉ states.map name := fun hi => hopen (hall _ hi)
      have hparents : Follows (L.improve j (floor + w) (name t)).parent (states.map name) j :=
        hfollows.congr fun i hi => Function.update_of_ne (hsettled (hall i hi)) ..
      refine ⟨states ++ [t], t, ht, .step hroute hstep, ?_, ?_, ?_⟩
      · rw [List.map_append]
        exact .child (Function.update_self ..) hparents
      · rw [List.map_append]
        exact List.nodup_append.mpr ⟨hnodup, List.pairwise_singleton _ _, fun i hi j hj hij =>
          hnot (by rwa [← List.mem_singleton.mp hj, ← hij])⟩
      · intro i hi hne
        rw [List.map_append, List.mem_append] at hi
        rcases hi with hi | hi
        · exact hall i hi
        · exact absurd (by simpa using hi) hne
    · obtain ⟨states, s', hs', hroute, hfollows, hnodup, hchain⟩ := h.attained (hcosts hc hk)
      refine ⟨states, s', hs', hroute, hfollows.congr ?_, hnodup, hchain⟩
      intro i hi
      apply Function.update_of_ne
      by_cases hik : i = k
      · exact hik ▸ hk
      · exact hsettled (hchain i hi hik)
  · intro k c hc hk
    by_cases hkt : k = name t
    · obtain rfl := hkt
      obtain rfl : floor + w = c := Option.some.inj (hnew.symm.trans hc)
      exact Set.mem_insert ..
    · exact Set.mem_insert_of_mem _ (h.queued (hcosts hc hkt) hk)
  · intro k hk
    obtain ⟨c, hc⟩ := h.known hk
    exact ⟨c, (Function.update_of_ne (hsettled hk) ..).trans hc⟩
  · intro k c hk hc
    exact h.low hk (hold hk hc)
  · rintro k c (hck | hck)
    · obtain ⟨rfl, rfl⟩ := Prod.mk.inj hck
      exact hfloor
    · exact h.high hck
  · intro k s' u w' hk hs' hpending hstep'
    obtain ⟨hu, c, c', hc, hc', hle⟩ := h.closed hk hs' hpending hstep'
    refine ⟨hu, c, ?_⟩
    have hkept : (L.improve j (floor + w) (name t)).cost k = some c :=
      (Function.update_of_ne (hsettled hk) ..).trans hc
    by_cases hut : name u = name t
    · rw [hut] at hc' ⊢
      exact ⟨_, hkept, hnew, (hbetter c' hc').le.trans hle⟩
    · exact ⟨c', hkept, (Function.update_of_ne hut ..).trans hc', hle⟩

/-- The cheapest entry of the queue is settled, if it is up to date. -/
theorem Inv.settle (h : Inv g name floor pending L) {k : κ} {c : C} {queue : Set (C × κ)}
    (hcost : L.cost k = some c) (hopen : k ∉ L.settled) (hsub : queue ⊆ L.queue)
    (hkept : ∀ e ∈ L.queue, e ≠ (c, k) → e ∈ queue) (hleast : ∀ e ∈ L.queue, c ≤ e.1) :
    Inv g name c (fun j t => j = k ∨ pending j t) { L.settle k with queue := queue } := by
  have hold : ∀ {j}, j ∈ insert k L.settled → j ≠ k → j ∈ L.settled :=
    fun hj hne => hj.resolve_left hne
  refine ⟨h.named, h.starts, ?_, ?_, ?_, ?_, ?_, ?_⟩
  · intro j c' hc'
    obtain ⟨states, s, hs, hroute, hfollows, hnodup, hchain⟩ := h.attained hc'
    exact ⟨states, s, hs, hroute, hfollows, hnodup,
      fun i hi hne => Set.mem_insert_of_mem _ (hchain i hi hne)⟩
  · intro j c' hc' hj
    have hjk : j ≠ k := fun hjk => hj (Or.inl hjk)
    have hne : (c', j) ≠ (c, k) := fun he => hjk (congrArg Prod.snd he)
    exact hkept _ (h.queued hc' fun hj' => hj (Or.inr hj')) hne
  · intro j hj
    by_cases hjk : j = k
    · exact ⟨c, hjk ▸ hcost⟩
    · exact h.known (hold hj hjk)
  · intro j c' hj hc'
    by_cases hjk : j = k
    · rw [hjk] at hc'
      exact (Option.some.inj (hcost.symm.trans hc')).ge
    · exact (h.low (hold hj hjk) hc').trans (h.high (h.queued hcost hopen))
  · intro j c' hj
    exact hleast _ (hsub hj)
  · intro j s t w hj hs hpending hstep
    obtain ⟨hjk, hpending⟩ := not_or.mp hpending
    exact h.closed (hold hj hjk) hs hpending hstep

end Operations

/-! ## What a search concludes -/

section Conclusions

variable {g : Graph σ C} {name : σ → κ} {floor : C} {L : Labels σ κ C}

/-- A route leaves the settled names at a queued name that costs no more, or it ends in a settled
name that costs no more. The induction is on the route. -/
theorem Inv.cut [IsOrderedAddMonoid C] (h : Inv g name floor (fun _ _ => False) L) {states : List σ}
    {c : C} {t : σ} (hroute : Route g states c t) :
    (∃ k c', k ∉ L.settled ∧ L.cost k = some c' ∧ c' ≤ c) ∨
      (name t ∈ L.settled ∧ L.state (name t) = some t ∧
        ∃ c', L.cost (name t) = some c' ∧ c' ≤ c) := by
  have hreached : ∀ {t : σ} {c : C}, L.state (name t) = some t →
      (∃ c', L.cost (name t) = some c' ∧ c' ≤ c) →
      (∃ k c', k ∉ L.settled ∧ L.cost k = some c' ∧ c' ≤ c) ∨
        (name t ∈ L.settled ∧ L.state (name t) = some t ∧
          ∃ c', L.cost (name t) = some c' ∧ c' ≤ c) := by
    intro t c hstate hcost
    by_cases hsettled : name t ∈ L.settled
    · exact Or.inr ⟨hsettled, hstate, hcost⟩
    · obtain ⟨c', hc', hle⟩ := hcost
      exact Or.inl ⟨name t, c', hsettled, hc', hle⟩
  induction hroute with
  | start hstart => exact hreached (h.starts hstart).1 (h.starts hstart).2
  | @step states c w s t before hstep ih =>
      rcases ih with ⟨k, c', hopen, hcost, hle⟩ | ⟨hsettled, hstate, c', hcost, hle⟩
      · exact Or.inl ⟨k, c', hopen, hcost, le_add_of_le_of_nonneg hle (g.nonneg hstep)⟩
      · obtain ⟨ht, c₁, c₂, hc₁, hc₂, hle₂⟩ := h.closed hsettled hstate not_false hstep
        obtain rfl : c' = c₁ := Option.some.inj (hcost.symm.trans hc₁)
        exact hreached ht ⟨c₂, hc₂, hle₂.trans (add_le_add_left hle w)⟩

/-- **Optimality.** Where no settled state is a goal, no route to a goal is cheaper than the cheapest
entry of the queue. -/
theorem Inv.least [IsOrderedAddMonoid C] (h : Inv g name floor (fun _ _ => False) L) {c₀ : C}
    (hleast : ∀ e ∈ L.queue, c₀ ≤ e.1)
    (hgoals : ∀ k ∈ L.settled, ∀ s, L.state k = some s → ¬ g.goal s) {states : List σ} {c : C}
    {t : σ} (hroute : Route g states c t) (hgoal : g.goal t) : c₀ ≤ c := by
  rcases h.cut hroute with ⟨k, c', hopen, hcost, hle⟩ | ⟨hsettled, hstate, -⟩
  · exact (hleast _ (h.queued hcost hopen)).trans hle
  · exact absurd hgoal (hgoals _ hsettled t hstate)

/-- **Exhaustion.** Where the queue is empty and no settled state is a goal, no goal is reachable. -/
theorem Inv.unreachable [IsOrderedAddMonoid C] (h : Inv g name floor (fun _ _ => False) L)
    (hempty : L.queue = ∅)
    (hgoals : ∀ k ∈ L.settled, ∀ s, L.state k = some s → ¬ g.goal s) {states : List σ} {c : C}
    {t : σ} (hroute : Route g states c t) : ¬ g.goal t := by
  rcases h.cut hroute with ⟨k, c', hopen, hcost, -⟩ | ⟨hsettled, hstate, -⟩
  · have hqueued := h.queued hcost hopen
    rw [hempty] at hqueued
    exact hqueued.elim
  · exact hgoals _ hsettled t hstate

end Conclusions

/-! ## The start -/

/-- Before the search: the starts are queued. -/
theorem inv_start [IsOrderedAddMonoid C] {g : Graph σ C} {name : σ → κ} {L : Labels σ κ C}
    (hstate : ∀ {k s}, L.state k = some s ↔ g.start s ∧ name s = k)
    (hcost : ∀ {k c}, L.cost k = some c ↔ c = 0 ∧ ∃ s, L.state k = some s)
    (hparent : ∀ k, L.parent k = none) (hsettled : L.settled = ∅)
    (hqueue : ∀ {c k}, (c, k) ∈ L.queue ↔ L.cost k = some c) :
    Inv g name 0 (fun _ _ => False) L := by
  have hnone : ∀ {k}, k ∉ L.settled := by
    intro k hk
    rw [hsettled] at hk
    exact hk.elim
  refine ⟨fun hs => (hstate.mp hs).2, ?_, ?_, fun hc _ => hqueue.mpr hc, fun hk => absurd hk hnone,
    fun hk => absurd hk hnone, ?_, fun hk => absurd hk hnone⟩
  · intro s hs
    have hnamed := hstate.mpr ⟨hs, rfl⟩
    exact ⟨hnamed, 0, hcost.mpr ⟨rfl, s, hnamed⟩, le_refl 0⟩
  · intro k c hc
    obtain ⟨rfl, s, hs⟩ := hcost.mp hc
    obtain ⟨hstart, rfl⟩ := hstate.mp hs
    exact ⟨[s], s, hs, .start hstart, .root (hparent _), List.pairwise_singleton _ _,
      fun j hj hne => absurd (by simpa using hj) hne⟩
  · intro k c hk
    obtain ⟨rfl, -⟩ := hcost.mp (hqueue.mp hk)
    exact le_refl 0

end LeastCost
