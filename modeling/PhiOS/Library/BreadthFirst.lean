import Mathlib.Data.List.Chain
import Mathlib.Data.List.Nodup
import Mathlib.Data.Nat.Notation
import Mathlib.Order.Basic
import Mathlib.Logic.Function.Basic

/-!
# Breadth-first search over classes

A graph has starts, goals and steps between states; only the admissible states count, and a state
may have a class. A breadth-first search over the classes visits at most one state of each class,
its representative, and takes the steps out of the representatives only. Its queue holds states with
the class that they were reached from.

`Inv` is what holds between any two operations of such a search. Where classes are a bisimulation,
every path of admissible states is followed by the representatives (`Inv.seen_or_queued`); so a goal
that is visited first is at the end of a shortest path (`Inv.shortest`), and where the queue is empty
no goal is reachable (`Inv.unreachable`).
-/

set_option autoImplicit false

namespace BreadthFirst

/-- A graph whose states may have a class. -/
structure Graph (σ κ : Type) where
  start : σ → Prop
  admissible : σ → Prop
  goal : σ → Prop
  step : σ → σ → Prop
  cls : σ → Option κ

variable {σ κ : Type}

/-- The paths of admissible states from a start, with their last state. -/
inductive Path (g : Graph σ κ) : List σ → σ → Prop
  | start {s : σ} (h : g.start s) (hs : g.admissible s) : Path g [s] s
  | step {states : List σ} {s t : σ} (before : Path g states s) (h : g.step s t)
      (ht : g.admissible t) : Path g (states ++ [t]) t

/-- Two states of one class are alike in what the search looks at. -/
structure Bisimulation (g : Graph σ κ) : Prop where
  goal : ∀ {k s t}, g.cls s = some k → g.cls t = some k → g.goal s → g.goal t
  step : ∀ {k s t s'}, g.cls s = some k → g.cls t = some k → g.step s s' → g.admissible s' →
    ∃ k' t', g.step t t' ∧ g.admissible t' ∧ g.cls s' = some k' ∧ g.cls t' = some k'

/-- What the search keeps of the classes that it has visited: the representative, the class that it
was reached from, and the number of steps to it. -/
structure Visits (σ κ : Type) where
  state : κ → Option σ
  parent : κ → Option κ
  depth : κ → ℕ

namespace Visits

/-- The number of steps to a state that is reached from a class, or that is a start. -/
def below (V : Visits σ κ) : Option κ → ℕ
  | none => 0
  | some k => V.depth k + 1

/-- A class is visited. -/
def visit [DecidableEq κ] (V : Visits σ κ) (k : κ) (s : σ) (p : Option κ) : Visits σ κ where
  state := Function.update V.state k (some s)
  parent := Function.update V.parent k p
  depth := Function.update V.depth k (V.below p)

end Visits

/-- Where a state comes from. -/
def Comes (g : Graph σ κ) (V : Visits σ κ) (s : σ) : Option κ → Prop
  | none => g.start s
  | some k => ∃ r, V.state k = some r ∧ g.step r s

/-- The class of the state has been visited within so many steps. -/
def Seen (g : Graph σ κ) (V : Visits σ κ) (s : σ) (n : ℕ) : Prop :=
  ∃ k r, g.cls s = some k ∧ V.state k = some r ∧ V.depth k ≤ n

/-- The representatives that the parents lead back over, from a start to the one of `k`. -/
inductive Back (V : Visits σ κ) : List σ → κ → Prop
  | root {k : κ} {s : σ} (hs : V.state k = some s) (h : V.parent k = none) : Back V [s] k
  | child {states : List σ} {j k : κ} {s : σ} (before : Back V states j) (hs : V.state k = some s)
      (h : V.parent k = some j) : Back V (states ++ [s]) k

/-- What holds of a representative. -/
structure Represents (g : Graph σ κ) (V : Visits σ κ) (k : κ) (s : σ) : Prop where
  cls : g.cls s = some k
  admissible : g.admissible s
  comes : Comes g V s (V.parent k)
  depth : V.depth k = V.below (V.parent k)

/-- What holds between two operations. -/
structure Inv (g : Graph σ κ) (V : Visits σ κ) (queue : List (σ × Option κ)) : Prop where
  reps : ∀ {k s}, V.state k = some s → Represents g V k s
  queued : ∀ e ∈ queue, Comes g V e.1 e.2
  sorted : queue.Pairwise fun a b => V.below a.2 ≤ V.below b.2
  high : ∀ {k s}, V.state k = some s → ∀ e ∈ queue, V.depth k ≤ V.below e.2
  starts : ∀ {s}, g.start s → g.admissible s → (s, none) ∈ queue ∨ Seen g V s 0
  closed : ∀ {k r t}, V.state k = some r → g.step r t → g.admissible t →
    (t, some k) ∈ queue ∨ Seen g V t (V.depth k + 1)

variable {g : Graph σ κ} {V : Visits σ κ} {queue : List (σ × Option κ)} {s : σ} {p : Option κ}
  {k : κ} {n : ℕ}

theorem Seen.mono {m : ℕ} (h : Seen g V s n) (hle : n ≤ m) : Seen g V s m := by
  obtain ⟨k, r, hcls, hstate, hdepth⟩ := h
  exact ⟨k, r, hcls, hstate, hdepth.trans hle⟩

/-! ## The parents -/

/-- The parents lead back over a path as long as the depth. The induction is on the depth. -/
theorem back_of_represents (hreps : ∀ {k s}, V.state k = some s → Represents g V k s)
    (h : V.state k = some s) :
    ∃ states, Back V states k ∧ Path g states s ∧ states.length = V.depth k + 1 := by
  induction hn : V.depth k generalizing k s with
  | zero =>
      have hrep := hreps h
      cases hparent : V.parent k with
      | none =>
          have hstart := hrep.comes
          rw [hparent] at hstart
          exact ⟨[s], .root h hparent, .start hstart hrep.admissible, rfl⟩
      | some j =>
          have hdepth := hrep.depth
          rw [hparent, hn] at hdepth
          cases hdepth
  | succ n ih =>
      have hrep := hreps h
      cases hparent : V.parent k with
      | none =>
          have hdepth := hrep.depth
          rw [hparent, hn] at hdepth
          cases hdepth
      | some j =>
          have hdepth := hrep.depth
          have hcomes := hrep.comes
          rw [hparent] at hdepth hcomes
          obtain ⟨r, hr, hstep⟩ := hcomes
          have hj : V.depth j = n := Nat.succ.inj (hdepth.symm.trans hn)
          obtain ⟨states, hback, hpath, hlength⟩ := ih hr hj
          refine ⟨states ++ [s], hback.child h hparent, hpath.step hstep hrep.admissible, ?_⟩
          rw [List.length_append, hlength, List.length_singleton]

/-! ## What the search may conclude -/

/-- The representatives keep up with every path: the class of its last state has been visited within
as many steps, or something that close is still queued. The induction is on the path. -/
theorem Inv.seen_or_queued (h : Inv g V queue) (hbisim : Bisimulation g) {states : List σ}
    (hpath : Path g states s) :
    Seen g V s (states.length - 1) ∨ ∃ e ∈ queue, V.below e.2 ≤ states.length - 1 := by
  induction hpath with
  | start hstart hs =>
      rcases h.starts hstart hs with hqueued | hseen
      · exact Or.inr ⟨_, hqueued, le_refl _⟩
      · exact Or.inl hseen
  | @step states s t before hstep ht ih =>
      have hlength : states.length - 1 + 1 = states.length := by
        have hne : states ≠ [] := by cases before <;> simp
        have hpos := List.length_pos_iff.mpr hne
        omega
      rw [List.length_append, List.length_singleton, Nat.add_sub_cancel]
      rcases ih with ⟨k, r, hcls, hr, hdepth⟩ | ⟨e, he, hle⟩
      · have hrep := h.reps hr
        -- the representative has a step into the same class
        obtain ⟨k', t', hstep', ht', hclsT, hclsT'⟩ := hbisim.step hcls hrep.cls hstep ht
        rcases h.closed hr hstep' ht' with hqueued | ⟨k'', r', hcls'', hr', hdepth'⟩
        · refine Or.inr ⟨_, hqueued, ?_⟩
          show V.depth k + 1 ≤ states.length
          omega
        · obtain rfl : k' = k'' := Option.some.inj (hclsT'.symm.trans hcls'')
          exact Or.inl ⟨k', r', hclsT, hr', by omega⟩
      · exact Or.inr ⟨e, he, by omega⟩

theorem Inv.unreachable (h : Inv g V []) (hbisim : Bisimulation g)
    (hgoal : ∀ {k s}, V.state k = some s → ¬ g.goal s) {states : List σ} (hpath : Path g states s) :
    ¬ g.goal s := by
  intro hs
  rcases h.seen_or_queued hbisim hpath with ⟨k, r, hcls, hr, -⟩ | ⟨e, he, -⟩
  · exact hgoal hr (hbisim.goal hcls (h.reps hr).cls hs)
  · cases he

theorem Inv.shortest {t : σ} (h : Inv g V ((s, p) :: queue)) (hbisim : Bisimulation g)
    (hgoal : ∀ {k s}, V.state k = some s → ¬ g.goal s) {states : List σ} (hpath : Path g states t)
    (ht : g.goal t) : V.below p + 1 ≤ states.length := by
  have hpos : states ≠ [] := by cases hpath <;> simp
  have hlength := List.length_pos_iff.mpr hpos
  rcases h.seen_or_queued hbisim hpath with ⟨k, r, hcls, hr, -⟩ | ⟨e, he, hle⟩
  · exact absurd (hbisim.goal hcls (h.reps hr).cls ht) (hgoal hr)
  · have hfirst : V.below p ≤ V.below e.2 := by
      rcases List.mem_cons.mp he with rfl | he
      · exact le_refl _
      · exact (List.pairwise_cons.mp h.sorted).1 e he
    omega

/-! ## The operations -/

/-- Before the search, the starts are queued. -/
theorem inv_start {starts : List σ} (hstarts : ∀ s, g.start s ↔ s ∈ starts)
    (hempty : ∀ k, V.state k = none) : Inv g V (starts.map fun s => (s, none)) := by
  have hnone : ∀ {k s}, V.state k ≠ some s := by
    intro k s hs
    rw [hempty k] at hs
    cases hs
  have hmem : ∀ e ∈ starts.map fun s => ((s, none) : σ × Option κ), e.1 ∈ starts ∧ e.2 = none := by
    intro e he
    obtain ⟨s, hs, rfl⟩ := List.mem_map.mp he
    exact ⟨hs, rfl⟩
  refine ⟨fun hs => absurd hs hnone, ?_, ?_, fun hs => absurd hs hnone, ?_,
    fun hs => absurd hs hnone⟩
  · intro e he
    obtain ⟨hs, hnone⟩ := hmem e he
    rw [hnone]
    exact (hstarts _).mpr hs
  · exact List.pairwise_map.mpr (List.pairwise_of_forall fun _ _ => le_refl _)
  · intro s hs _
    exact Or.inl (List.mem_map_of_mem ((hstarts s).mp hs))

/-- An entry is dropped that is not admissible, or whose class has been visited. -/
theorem Inv.drop (h : Inv g V ((s, p) :: queue))
    (hdrop : g.admissible s → ∃ k r, g.cls s = some k ∧ V.state k = some r) : Inv g V queue := by
  -- the class of what is dropped has been visited no later
  have hseen : g.admissible s → Seen g V s (V.below p) := by
    intro hs
    obtain ⟨k, r, hcls, hr⟩ := hdrop hs
    exact ⟨k, r, hcls, hr, h.high hr _ (List.mem_cons_self ..)⟩
  refine ⟨h.reps, fun e he => h.queued e (List.mem_cons_of_mem _ he),
    (List.pairwise_cons.mp h.sorted).2, fun hr e he => h.high hr e (List.mem_cons_of_mem _ he), ?_, ?_⟩
  · intro t hstart ht
    rcases h.starts hstart ht with hqueued | hold
    · rcases List.mem_cons.mp hqueued with heq | hrest
      · obtain ⟨rfl, rfl⟩ := Prod.mk.inj heq
        exact Or.inr (hseen ht)
      · exact Or.inl hrest
    · exact Or.inr hold
  · intro k r t hr hstep ht
    rcases h.closed hr hstep ht with hqueued | hold
    · rcases List.mem_cons.mp hqueued with heq | hrest
      · obtain ⟨rfl, rfl⟩ := Prod.mk.inj heq
        exact Or.inr (hseen ht)
      · exact Or.inl hrest
    · exact Or.inr hold

section Visit

variable [DecidableEq κ]

theorem visit_state_self : (V.visit k s p).state k = some s := Function.update_self ..

theorem visit_state_of_ne {j : κ} (hj : j ≠ k) : (V.visit k s p).state j = V.state j :=
  Function.update_of_ne hj ..

theorem visit_state_of_some {j : κ} {r : σ} (hnew : V.state k = none) (hr : V.state j = some r) :
    j ≠ k ∧ (V.visit k s p).state j = some r := by
  have hj : j ≠ k := by
    rintro rfl
    rw [hnew] at hr
    cases hr
  exact ⟨hj, (visit_state_of_ne hj).trans hr⟩

theorem Seen.visit {t : σ} (hnew : V.state k = none) (h : Seen g V t n) :
    Seen g (V.visit k s p) t n := by
  obtain ⟨j, r, hcls, hr, hdepth⟩ := h
  obtain ⟨hj, hr'⟩ := visit_state_of_some (s := s) (p := p) hnew hr
  refine ⟨j, r, hcls, hr', ?_⟩
  rwa [show (V.visit k s p).depth j = V.depth j from Function.update_of_ne hj ..]

theorem Comes.visit {t : σ} {q : Option κ} (hnew : V.state k = none) (h : Comes g V t q) :
    Comes g (V.visit k s p) t q ∧ (V.visit k s p).below q = V.below q := by
  cases q with
  | none => exact ⟨h, rfl⟩
  | some j =>
      obtain ⟨r, hr, hstep⟩ := h
      obtain ⟨hj, hr'⟩ := visit_state_of_some (s := s) (p := p) hnew hr
      refine ⟨⟨r, hr', hstep⟩, ?_⟩
      show Function.update V.depth k (V.below p) j + 1 = V.depth j + 1
      rw [Function.update_of_ne hj]

/-- The first state of a class becomes its representative. -/
theorem Inv.represents_visit (h : Inv g V ((s, p) :: queue)) (hcls : g.cls s = some k)
    (hs : g.admissible s) (hnew : V.state k = none) {j : κ} {r : σ}
    (hr : (V.visit k s p).state j = some r) : Represents g (V.visit k s p) j r := by
  by_cases hj : j = k
  · obtain rfl := hj
    obtain rfl : s = r := Option.some.inj (visit_state_self.symm.trans hr)
    have hparent : (V.visit j s p).parent j = p := Function.update_self ..
    obtain ⟨hcomes, hbelow⟩ :=
      (h.queued _ (List.mem_cons_self ..)).visit (s := s) (p := p) hnew
    refine ⟨hcls, hs, by rw [hparent]; exact hcomes, ?_⟩
    rw [hparent, hbelow]
    exact Function.update_self ..
  · have hold : V.state j = some r := (visit_state_of_ne hj).symm.trans hr
    have hrep := h.reps hold
    have hparent : (V.visit k s p).parent j = V.parent j := Function.update_of_ne hj ..
    obtain ⟨hcomes, hbelow⟩ := hrep.comes.visit (s := s) (p := p) hnew
    refine ⟨hrep.cls, hrep.admissible, by rw [hparent]; exact hcomes, ?_⟩
    rw [hparent, hbelow, ← hrep.depth]
    exact Function.update_of_ne hj ..

/-- A class is visited and the steps out of its representative are queued. -/
theorem Inv.visit (h : Inv g V ((s, p) :: queue)) (hcls : g.cls s = some k) (hs : g.admissible s)
    (hnew : V.state k = none) {neighbors : List σ} (hsteps : ∀ t, g.step s t ↔ t ∈ neighbors) :
    Inv g (V.visit k s p) (queue ++ neighbors.map fun t => (t, some k)) := by
  have hdepth : (V.visit k s p).depth k = V.below p := Function.update_self ..
  have hmem : ∀ {e}, e ∈ neighbors.map (fun t => ((t, some k) : σ × Option κ)) →
      e.1 ∈ neighbors ∧ e.2 = some k := by
    intro e he
    obtain ⟨t, ht, rfl⟩ := List.mem_map.mp he
    exact ⟨ht, rfl⟩
  have hqueue : ∀ e ∈ queue, Comes g (V.visit k s p) e.1 e.2 ∧
      (V.visit k s p).below e.2 = V.below e.2 :=
    fun e he => (h.queued e (List.mem_cons_of_mem _ he)).visit hnew
  have hbelow : (V.visit k s p).below (some k) = V.below p + 1 := congrArg (· + 1) hdepth
  obtain ⟨hfirst, hsorted⟩ := List.pairwise_cons.mp h.sorted
  -- nothing that is queued is more than one step farther away
  have hnear : ∀ e ∈ queue, V.below e.2 ≤ V.below p + 1 := by
    intro e he
    have hcomes := h.queued e (List.mem_cons_of_mem _ he)
    cases hq : e.2 with
    | none => exact Nat.zero_le _
    | some j =>
        rw [hq] at hcomes
        obtain ⟨r, hr, -⟩ := hcomes
        exact Nat.succ_le_succ (h.high hr _ (List.mem_cons_self ..))
  -- the entry that is taken off the queue is seen now
  have hself : Seen g (V.visit k s p) s (V.below p) :=
    ⟨k, s, hcls, visit_state_self, le_of_eq hdepth⟩
  refine ⟨fun hr => h.represents_visit hcls hs hnew hr, ?_, ?_, ?_, ?_, ?_⟩
  · intro e he
    rcases List.mem_append.mp he with he | he
    · exact (hqueue e he).1
    · obtain ⟨ht, heq⟩ := hmem he
      rw [heq]
      exact ⟨s, visit_state_self, (hsteps _).mpr ht⟩
  · refine List.pairwise_append.mpr ⟨?_, ?_, ?_⟩
    · refine hsorted.imp_of_mem ?_
      intro a b ha hb hab
      rw [(hqueue a ha).2, (hqueue b hb).2]
      exact hab
    · exact List.pairwise_map.mpr (List.pairwise_of_forall fun _ _ => le_refl _)
    · intro a ha b hb
      rw [(hqueue a ha).2, (hmem hb).2, hbelow]
      exact hnear a ha
  · intro j r hr e he
    have hle : (V.visit k s p).depth j ≤ V.below p := by
      by_cases hj : j = k
      · rw [hj, hdepth]
      · have hold : V.state j = some r := (visit_state_of_ne hj).symm.trans hr
        rw [show (V.visit k s p).depth j = V.depth j from Function.update_of_ne hj ..]
        exact h.high hold _ (List.mem_cons_self ..)
    refine hle.trans ?_
    rcases List.mem_append.mp he with he | he
    · rw [(hqueue e he).2]
      exact hfirst e he
    · rw [(hmem he).2, hbelow]
      exact Nat.le_succ _
  · intro t hstart ht
    rcases h.starts hstart ht with hqueued | hold
    · rcases List.mem_cons.mp hqueued with heq | hrest
      · obtain ⟨rfl, rfl⟩ := Prod.mk.inj heq
        exact Or.inr hself
      · exact Or.inl (List.mem_append_left _ hrest)
    · exact Or.inr (hold.visit hnew)
  · intro j r t hr hstep ht
    by_cases hj : j = k
    · obtain rfl := hj
      obtain rfl : s = r := Option.some.inj (visit_state_self.symm.trans hr)
      refine Or.inl (List.mem_append_right _ (List.mem_map.mpr ⟨t, ?_, rfl⟩))
      exact (hsteps t).mp hstep
    · have hold : V.state j = some r := (visit_state_of_ne hj).symm.trans hr
      rw [show (V.visit k s p).depth j = V.depth j from Function.update_of_ne hj ..]
      rcases h.closed hold hstep ht with hqueued | hseen
      · rcases List.mem_cons.mp hqueued with heq | hrest
        · obtain ⟨rfl, rfl⟩ := Prod.mk.inj heq
          exact Or.inr hself
        · exact Or.inl (List.mem_append_left _ hrest)
      · exact Or.inr (hseen.visit hnew)

end Visit

/-! ## Paths -/

section Paths

variable {states : List σ}

theorem Path.ne_nil (h : Path g states s) : states ≠ [] := by
  cases h <;> simp

theorem Path.getLast? (h : Path g states s) : states.getLast? = some s := by
  cases h <;> simp

/-- What a path is. -/
theorem path_iff : Path g states s ↔
    (∃ start, states.head? = some start ∧ g.start start) ∧ (∀ t ∈ states, g.admissible t) ∧
      states.IsChain g.step ∧ states.getLast? = some s := by
  constructor
  · intro h
    refine ⟨?_, ?_, ?_, h.getLast?⟩
    · induction h with
      | start h hs => exact ⟨_, rfl, h⟩
      | step before h ht ih =>
          obtain ⟨start, hhead, hstart⟩ := ih
          refine ⟨start, ?_, hstart⟩
          rw [List.head?_append, hhead]
          rfl
    · induction h with
      | start h hs =>
          intro t ht
          obtain rfl := List.mem_singleton.mp ht
          exact hs
      | step before h ht ih =>
          intro t hmem
          rcases List.mem_append.mp hmem with hmem | hmem
          · exact ih t hmem
          · obtain rfl := List.mem_singleton.mp hmem
            exact ht
    · induction h with
      | start h hs => exact List.isChain_singleton _
      | @step states s t before h ht ih =>
          refine List.isChain_append.mpr ⟨ih, List.isChain_singleton _, ?_⟩
          intro x hx y hy
          rw [before.getLast?] at hx
          obtain rfl := Option.mem_some_iff.mp hx
          obtain rfl : t = y := by simpa using hy
          exact h
  · rintro ⟨⟨start, hhead, hstart⟩, hall, hchain, hlast⟩
    induction states using List.reverseRecOn generalizing s with
    | nil => cases hhead
    | append_singleton states t ih =>
        obtain rfl : t = s := by simpa using hlast
        have ht : g.admissible t := hall t (by simp)
        cases states with
        | nil =>
            obtain rfl : t = start := Option.some.inj hhead
            exact .start hstart ht
        | cons first rest =>
            obtain ⟨hbefore, -, hlink⟩ := List.isChain_append.mp hchain
            obtain ⟨r, hr⟩ : ∃ r, (first :: rest).getLast? = some r :=
              Option.isSome_iff_exists.mp (by simp)
            have hpath := ih (by simpa using hhead)
              (fun x hx => hall x (List.mem_append_left _ hx)) hbefore hr
            exact hpath.step (hlink r hr t (by simp)) ht

end Paths

end BreadthFirst
