import Mathlib.Data.List.Nodup
import Mathlib.Logic.Function.Basic
import Mathlib.Data.Set.Basic

/-!
# Repeated blocks whose counters are kept under keys

A flow passes labels and repeats blocks. In its structured reading a block runs its body a fixed
number of times whenever it is reached. In the counted reading the number of runs is kept under the
key of the block and never reset: a block that is reached again only makes up for what its counter
lacks. `counteds_eq_runs_iff` says that both pass the same labels if and only if no key of a block
that passes anything is reached twice.

`Tracks` is the relation between the two readings that composes.
-/

set_option autoImplicit false

namespace KeyedBlocks

variable {κ ι : Type}

/-- A flow of labels and repeated blocks. -/
inductive Flow (κ ι : Type)
  | pass (label : ι)
  | block (key : κ) (trips : ℕ) (body : List (Flow κ ι))

mutual

/-- The structured reading. -/
def run : Flow κ ι → List ι
  | .pass label => [label]
  | .block _ trips body => (List.replicate trips (runs body)).flatten

/-- The structured reading of a sequence. -/
def runs : List (Flow κ ι) → List ι
  | [] => []
  | flow :: flows => run flow ++ runs flows

end

mutual

/-- The keys of the blocks that pass something, in the order in which they are reached. -/
def visit : Flow κ ι → List κ
  | .pass _ => []
  | .block key trips body =>
      (if (runs body).isEmpty || trips = 0 then [] else [key]) ++
        (List.replicate trips (visits body)).flatten

/-- The same for a sequence. -/
def visits : List (Flow κ ι) → List κ
  | [] => []
  | flow :: flows => visit flow ++ visits flows

end

/-! ## Shapes -/

/-- What is left of a flow without its labels and keys. -/
inductive Shape
  | pass
  | block (trips : ℕ) (body : List Shape)

/-- How often a block runs its body. -/
def Shape.trips : Shape → ℕ
  | .pass => 0
  | .block trips _ => trips

mutual

/-- The shape of a flow. -/
def shape : Flow κ ι → Shape
  | .pass _ => .pass
  | .block _ trips body => .block trips (shapes body)

/-- The shapes of a sequence. -/
def shapes : List (Flow κ ι) → List Shape
  | [] => []
  | flow :: flows => shape flow :: shapes flows

end

mutual

/-- Nothing is passed. -/
def Shape.silent : Shape → Prop
  | .pass => False
  | .block trips body => trips = 0 ∨ Shape.silents body

/-- Nothing is passed by a sequence. -/
def Shape.silents : List Shape → Prop
  | [] => True
  | first :: rest => first.silent ∧ Shape.silents rest

end

mutual

/-- The keys of all blocks of a flow. -/
def keys : Flow κ ι → List κ
  | .pass _ => []
  | .block key _ body => key :: keysAll body

/-- The keys of all blocks of a sequence. -/
def keysAll : List (Flow κ ι) → List κ
  | [] => []
  | flow :: flows => keys flow ++ keysAll flows

end

mutual

/-- Every block has the shape that `forms` assigns to its key. -/
def Follows (forms : κ → Shape) : Flow κ ι → Prop
  | .pass _ => True
  | .block key trips body => forms key = .block trips (shapes body) ∧ FollowsAll forms body

/-- The same for a sequence. -/
def FollowsAll (forms : κ → Shape) : List (Flow κ ι) → Prop
  | [] => True
  | flow :: flows => Follows forms flow ∧ FollowsAll forms flows

end

theorem flatten_replicate_eq_nil {α : Type} (n : ℕ) (l : List α) :
    (List.replicate n l).flatten = [] ↔ n = 0 ∨ l = [] := by
  rw [List.flatten_eq_nil_iff]
  constructor
  · intro h
    by_cases hn : n = 0
    · exact .inl hn
    · exact .inr (h l (List.mem_replicate.mpr ⟨hn, rfl⟩))
  · intro h l' hl'
    obtain ⟨hn, rfl⟩ := List.mem_replicate.mp hl'
    exact h.resolve_left hn

mutual

theorem run_eq_nil : (flow : Flow κ ι) → (run flow = [] ↔ (shape flow).silent)
  | .pass label => by simp [run, shape, Shape.silent]
  | .block key trips body => by
      unfold run shape Shape.silent
      rw [flatten_replicate_eq_nil, runs_eq_nil body]

theorem runs_eq_nil : (flows : List (Flow κ ι)) → (runs flows = [] ↔ Shape.silents (shapes flows))
  | [] => by simp [runs, shapes, Shape.silents]
  | flow :: flows => by
      unfold runs shapes Shape.silents
      rw [List.append_eq_nil_iff, run_eq_nil flow, runs_eq_nil flows]

end

mutual

theorem visit_eq_nil : (flow : Flow κ ι) → run flow = [] → visit flow = []
  | .pass label, _ => rfl
  | .block key trips body, h => by
      unfold run at h
      unfold visit
      rcases (flatten_replicate_eq_nil _ _).mp h with h | h
      · simp [h]
      · simp [h, visits_eq_nil body h]

theorem visits_eq_nil : (flows : List (Flow κ ι)) → runs flows = [] → visits flows = []
  | [], _ => rfl
  | flow :: flows, h => by
      unfold runs at h
      obtain ⟨hflow, hflows⟩ := List.append_eq_nil_iff.mp h
      unfold visits
      rw [visit_eq_nil flow hflow, visits_eq_nil flows hflows, List.append_nil]

end

mutual

theorem sizeOf_form_le {forms : κ → Shape} : (flow : Flow κ ι) → Follows forms flow →
    ∀ k ∈ keys flow, sizeOf (forms k) ≤ sizeOf (shape flow)
  | .pass label, _ => fun k hk => by cases hk
  | .block key trips body, h => fun k hk => by
      unfold Follows at h
      unfold keys at hk
      rcases List.mem_cons.mp hk with rfl | hk
      · rw [h.1]
        exact Nat.le_refl _
      · have hbody := sizeOf_form_lt body h.2 k hk
        have hblock : sizeOf (shape (.block key trips body)) =
            1 + trips + sizeOf (shapes body) := by
          simp [shape]
        omega

theorem sizeOf_form_lt {forms : κ → Shape} : (flows : List (Flow κ ι)) → FollowsAll forms flows →
    ∀ k ∈ keysAll flows, sizeOf (forms k) < sizeOf (shapes flows)
  | [], _ => fun k hk => by cases hk
  | flow :: flows, h => fun k hk => by
      unfold FollowsAll at h
      unfold keysAll at hk
      have hcons : sizeOf (shapes (flow :: flows)) =
          1 + sizeOf (shape flow) + sizeOf (shapes flows) := by
        simp [shapes]
      rcases List.mem_append.mp hk with hk | hk
      · have hflow := sizeOf_form_le flow h.1 k hk
        omega
      · have hflows := sizeOf_form_lt flows h.2 k hk
        omega

end

theorem key_not_mem_body {forms : κ → Shape} {key : κ} {trips : ℕ} {body : List (Flow κ ι)}
    (h : Follows forms (.block key trips body)) : key ∉ keysAll body := by
  unfold Follows at h
  intro hkey
  have hlt := sizeOf_form_lt body h.2 key hkey
  rw [h.1] at hlt
  simp only [Shape.block.sizeOf_spec] at hlt
  omega

/-! ## Sequences -/

section Append

variable (flows₁ flows₂ : List (Flow κ ι))

theorem runs_append : runs (flows₁ ++ flows₂) = runs flows₁ ++ runs flows₂ := by
  induction flows₁ with
  | nil => rfl
  | cons flow flows ih =>
      have hcons : ∀ flows, runs (flow :: flows) = run flow ++ runs flows :=
        fun flows => by rw [runs]
      rw [List.cons_append, hcons, hcons, ih, List.append_assoc]

theorem shapes_append : shapes (flows₁ ++ flows₂) = shapes flows₁ ++ shapes flows₂ := by
  induction flows₁ with
  | nil => rfl
  | cons flow flows ih =>
      have hcons : ∀ flows, shapes (flow :: flows) = shape flow :: shapes flows :=
        fun flows => by rw [shapes]
      rw [List.cons_append, hcons, hcons, ih, List.cons_append]

theorem followsAll_append {forms : κ → Shape} (h₁ : FollowsAll forms flows₁)
    (h₂ : FollowsAll forms flows₂) : FollowsAll forms (flows₁ ++ flows₂) := by
  induction flows₁ with
  | nil => exact h₂
  | cons flow flows ih =>
      unfold FollowsAll at h₁
      rw [List.cons_append, FollowsAll]
      exact ⟨h₁.1, ih h₁.2⟩

end Append

theorem runs_singleton (flow : Flow κ ι) : runs [flow] = run flow := by
  rw [runs, runs, List.append_nil]

/-! ## The counted reading -/

/-- The numbers of runs so far. -/
abbrev Counts (κ : Type) := κ → ℕ

/-- One reading after another. -/
def andThen (g₁ g₂ : Counts κ → List ι × Counts κ) (c : Counts κ) : List ι × Counts κ :=
  ((g₁ c).1 ++ (g₂ (g₁ c).2).1, (g₂ (g₁ c).2).2)

/-- Nothing passed, nothing counted. -/
def nothing (c : Counts κ) : List ι × Counts κ := ([], c)

/-- A reading `n` times over. -/
def times (g : Counts κ → List ι × Counts κ) : ℕ → Counts κ → List ι × Counts κ
  | 0 => nothing
  | n + 1 => andThen g (times g n)

variable [DecidableEq κ]

/-- One more run under a key. -/
def bump (key : κ) (c : Counts κ) : List ι × Counts κ :=
  ([], Function.update c key (c key + 1))

mutual

/-- The counted reading. -/
def counted : Flow κ ι → Counts κ → List ι × Counts κ
  | .pass label, c => ([label], c)
  | .block key trips body, c => times (andThen (counteds body) (bump key)) (trips - c key) c

/-- The counted reading of a sequence. -/
def counteds : List (Flow κ ι) → Counts κ → List ι × Counts κ
  | [] => nothing
  | flow :: flows => andThen (counted flow) (counteds flows)

end

omit [DecidableEq κ] in
theorem andThen_assoc (g₁ g₂ g₃ : Counts κ → List ι × Counts κ) :
    andThen (andThen g₁ g₂) g₃ = andThen g₁ (andThen g₂ g₃) := by
  funext c
  simp [andThen, List.append_assoc]

omit [DecidableEq κ] in

omit [DecidableEq κ] in
theorem andThen_nothing (g : Counts κ → List ι × Counts κ) : andThen g nothing = g := by
  funext c
  simp [andThen, nothing]

theorem counteds_append (flows₁ flows₂ : List (Flow κ ι)) :
    counteds (flows₁ ++ flows₂) = andThen (counteds flows₁) (counteds flows₂) := by
  induction flows₁ with
  | nil => rfl
  | cons flow flows ih =>
      have hcons : ∀ flows, counteds (flow :: flows) = andThen (counted flow) (counteds flows) :=
        fun flows => by rw [counteds]
      rw [List.cons_append, hcons, hcons, ih, andThen_assoc]

omit [DecidableEq κ] in
theorem times_of_frame {g : Counts κ → List ι × Counts κ} {k : κ} (h : ∀ c, (g c).2 k = c k)
    (n : ℕ) (c : Counts κ) : (times g n c).2 k = c k := by
  induction n generalizing c with
  | zero => rfl
  | succ n ih =>
      show (times g n (g c).2).2 k = c k
      rw [ih, h]

mutual

theorem counted_of_not_mem {k : κ} : (flow : Flow κ ι) → k ∉ keys flow →
    ∀ c, (counted flow c).2 k = c k
  | .pass label, _, c => rfl
  | .block key trips body, h, c => by
      unfold keys at h
      unfold counted
      refine times_of_frame (fun c' => ?_) _ c
      have hne : k ≠ key := fun heq => h (heq ▸ List.mem_cons_self)
      show Function.update (counteds body c').2 key _ k = c' k
      rw [Function.update_of_ne hne]
      exact counteds_of_not_mem body (fun hk => h (List.mem_cons_of_mem _ hk)) c'

theorem counteds_of_not_mem {k : κ} : (flows : List (Flow κ ι)) → k ∉ keysAll flows →
    ∀ c, (counteds flows c).2 k = c k
  | [], _, c => rfl
  | flow :: flows, h, c => by
      unfold keysAll at h
      show (counteds flows (counted flow c).2).2 k = c k
      rw [counteds_of_not_mem flows (fun hk => h (List.mem_append_right _ hk)),
        counted_of_not_mem flow fun hk => h (List.mem_append_left _ hk)]

end

/-! ## Tracking -/

section Tracks

/-- A key was never started, or is finished. -/
def Settled (forms : κ → Shape) (c : Counts κ) (key : κ) : Prop :=
  c key = 0 ∨ (forms key).trips ≤ c key

/-- How a counted reading `g` relates to a structured one with the trace `r` and the visits `v`.
The keys of `live` are settled before and after; other keys are counted up by `shift`. -/
structure Tracks (forms : κ → Shape) (live : Set κ) (shift : Counts κ)
    (g : Counts κ → List ι × Counts κ) (r : List ι) (v : List κ) : Prop where
  visited : ∀ k ∈ v, k ∈ live ∧ ¬ (forms k).silent
  length_le : ∀ c, (∀ k ∈ live, Settled forms c k) → (g c).1.length ≤ r.length
  eq_iff : ∀ c, (∀ k ∈ live, Settled forms c k) →
    ((g c).1 = r ↔ v.Nodup ∧ ∀ k ∈ v, c k = 0)
  settled : ∀ c, (∀ k ∈ live, Settled forms c k) → ∀ k ∈ live, Settled forms (g c).2 k
  started : ∀ c, (∀ k ∈ live, Settled forms c k) → (g c).1 = r → ∀ k ∈ live, ¬ (forms k).silent →
    ((g c).2 k = 0 ↔ c k = 0 ∧ k ∉ v)
  frame : ∀ c, (∀ k ∈ live, Settled forms c k) → ∀ k ∉ live, (g c).2 k = c k + shift k

namespace Tracks

variable {forms : κ → Shape} {live : Set κ} {shift shift₁ shift₂ : Counts κ}
  {g g₁ g₂ : Counts κ → List ι × Counts κ} {r r₁ r₂ : List ι} {v v₁ v₂ : List κ} {key : κ}

omit [DecidableEq κ] in
theorem nothing : Tracks forms live (fun _ => 0) (nothing : Counts κ → List ι × Counts κ) [] [] where
  visited := fun k hk => by cases hk
  length_le := fun c _ => Nat.le_refl 0
  eq_iff := fun c _ => by simp [KeyedBlocks.nothing]
  settled := fun c hc => hc
  started := fun c _ _ k _ _ => by simp [KeyedBlocks.nothing]
  frame := fun c _ k _ => rfl

omit [DecidableEq κ] in
theorem pass (label : ι) : Tracks forms live (fun _ => 0) (fun c => ([label], c)) [label] [] where
  visited := fun k hk => by cases hk
  length_le := fun c _ => Nat.le_refl 1
  eq_iff := fun c _ => by simp
  settled := fun c hc => hc
  started := fun c _ _ k _ _ => by simp
  frame := fun c _ k _ => rfl

omit [DecidableEq κ] in
theorem trace_append (h₁ : Tracks forms live shift₁ g₁ r₁ v₁) (h₂ : Tracks forms live shift₂ g₂ r₂ v₂)
    {c : Counts κ} (hc : ∀ k ∈ live, Settled forms c k) :
    (andThen g₁ g₂ c).1 = r₁ ++ r₂ ↔ (g₁ c).1 = r₁ ∧ (g₂ (g₁ c).2).1 = r₂ := by
  constructor
  · intro h
    have hle₁ := h₁.length_le c hc
    have hle₂ := h₂.length_le (g₁ c).2 (h₁.settled c hc)
    have hlength := congrArg List.length h
    simp only [andThen, List.length_append] at hlength
    exact List.append_inj h (by omega)
  · rintro ⟨h, h'⟩
    show (g₁ c).1 ++ (g₂ (g₁ c).2).1 = r₁ ++ r₂
    rw [h, h']

omit [DecidableEq κ] in
/-- **The composition rule.** -/
theorem append (h₁ : Tracks forms live shift₁ g₁ r₁ v₁) (h₂ : Tracks forms live shift₂ g₂ r₂ v₂) :
    Tracks forms live (fun k => shift₁ k + shift₂ k) (andThen g₁ g₂) (r₁ ++ r₂) (v₁ ++ v₂) where
  visited := fun k hk => by
    rcases List.mem_append.mp hk with hk | hk
    · exact h₁.visited k hk
    · exact h₂.visited k hk
  length_le := fun c hc => by
    have hle₁ := h₁.length_le c hc
    have hle₂ := h₂.length_le (g₁ c).2 (h₁.settled c hc)
    simp only [andThen, List.length_append]
    omega
  eq_iff := fun c hc => by
    rw [trace_append h₁ h₂ hc, h₁.eq_iff c hc, h₂.eq_iff _ (h₁.settled c hc)]
    constructor
    · rintro ⟨⟨hnodup₁, hzero₁⟩, hnodup₂, hzero₂⟩
      have hsame := h₁.started c hc ((h₁.eq_iff c hc).mpr ⟨hnodup₁, hzero₁⟩)
      have hfresh : ∀ k ∈ v₂, c k = 0 ∧ k ∉ v₁ := fun k hk =>
        (hsame k (h₂.visited k hk).1 (h₂.visited k hk).2).mp (hzero₂ k hk)
      refine ⟨List.nodup_append.mpr ⟨hnodup₁, hnodup₂, ?_⟩, fun k hk => ?_⟩
      · rintro k hk k' hk' rfl
        exact (hfresh k hk').2 hk
      · rcases List.mem_append.mp hk with hk | hk
        · exact hzero₁ k hk
        · exact (hfresh k hk).1
    · rintro ⟨hnodup, hzero⟩
      obtain ⟨hnodup₁, hnodup₂, hdisjoint⟩ := List.nodup_append.mp hnodup
      have hzero₁ : ∀ k ∈ v₁, c k = 0 := fun k hk => hzero k (List.mem_append_left _ hk)
      have hsame := h₁.started c hc ((h₁.eq_iff c hc).mpr ⟨hnodup₁, hzero₁⟩)
      refine ⟨⟨hnodup₁, hzero₁⟩, hnodup₂, fun k hk => ?_⟩
      exact (hsame k (h₂.visited k hk).1 (h₂.visited k hk).2).mpr
        ⟨hzero k (List.mem_append_right _ hk), fun hk₁ => hdisjoint k hk₁ k hk rfl⟩
  settled := fun c hc => h₂.settled _ (h₁.settled c hc)
  started := fun c hc h k hlive hidle => by
    obtain ⟨htrace₁, htrace₂⟩ := (trace_append h₁ h₂ hc).mp h
    have hfirst := h₁.started c hc htrace₁ k hlive hidle
    have hsecond := h₂.started _ (h₁.settled c hc) htrace₂ k hlive hidle
    show (g₂ (g₁ c).2).2 k = 0 ↔ _
    rw [hsecond, hfirst, List.mem_append, not_or, and_assoc]
  frame := fun c hc k hk => by
    show (g₂ (g₁ c).2).2 k = _
    rw [h₂.frame _ (h₁.settled c hc) k hk, h₁.frame c hc k hk, Nat.add_assoc]

omit [DecidableEq κ] in
/-- A reading several times over. -/
theorem times (h : Tracks forms live shift g r v) (n : ℕ) :
    Tracks forms live (fun k => n * shift k) (times g n) (List.replicate n r).flatten
      (List.replicate n v).flatten := by
  induction n with
  | zero =>
      have hzero : (fun k => 0 * shift k) = fun _ => 0 := by
        funext k
        exact Nat.zero_mul _
      rw [hzero]
      exact nothing
  | succ n ih =>
      have hsucc : (fun k => (n + 1) * shift k) = fun k => shift k + n * shift k := by
        funext k
        rw [Nat.succ_mul, Nat.add_comm]
      rw [hsucc, List.replicate_succ, List.replicate_succ, List.flatten_cons, List.flatten_cons]
      exact h.append ih

/-- Counting a run under a key that is not live. -/
theorem bump (hkey : key ∉ live) :
    Tracks forms live (fun k => if k = key then 1 else 0) (bump key : Counts κ → List ι × Counts κ)
      [] [] where
  visited := fun k hk => by cases hk
  length_le := fun c _ => Nat.le_refl 0
  eq_iff := fun c _ => by simp [KeyedBlocks.bump]
  settled := fun c hc k hk => by
    have hne : k ≠ key := fun heq => hkey (heq ▸ hk)
    unfold Settled
    rw [show (KeyedBlocks.bump key c : List ι × Counts κ).2 k = c k from
      Function.update_of_ne hne _ _]
    exact hc k hk
  started := fun c _ _ k hk _ => by
    have hne : k ≠ key := fun heq => hkey (heq ▸ hk)
    rw [show (KeyedBlocks.bump key c : List ι × Counts κ).2 k = c k from
      Function.update_of_ne hne _ _]
    simp
  frame := fun c _ k _ => by
    by_cases hk : k = key
    · subst hk
      rw [if_pos rfl]
      exact Function.update_self _ _ _
    · rw [if_neg hk]
      exact Function.update_of_ne hk _ _

/-- **The rule of a block.** The body is read with the key of the block not live. -/
theorem block {n : ℕ} {body : List (Flow κ ι)} (hkey : key ∈ live)
    (hform : forms key = .block n (shapes body))
    (hbody : Tracks forms (live \ {key}) (fun _ => 0) (counteds body) (runs body)
      (visits body)) :
    Tracks forms live (fun _ => 0) (counted (.block key n body)) (run (.block key n body))
      (visit (.block key n body)) := by
  have hkeyBody : key ∉ live \ {key} := fun h => h.2 rfl
  have hturn := (hbody.append (bump hkeyBody)).times n
  rw [List.append_nil, List.append_nil] at hturn
  have hrun : run (.block key n body) = (List.replicate n (runs body)).flatten := by
    unfold run
    rfl
  have hsilent : (forms key).silent ↔ run (.block key n body) = [] := by
    rw [run_eq_nil, hform]
    unfold shape
    rfl
  have hinner : ∀ c, (∀ k ∈ live, Settled forms c k) →
      ∀ k ∈ live \ {key}, Settled forms c k := fun c hc k hk => hc k hk.1
  -- the keys reached are the key of the block, unless it is silent, and those of the body
  have hmem : ∀ k, k ∈ visit (.block key n body) ↔
      (k = key ∧ ¬ (forms key).silent) ∨ k ∈ (List.replicate n (visits body)).flatten := by
    intro k
    rw [hsilent, hrun, flatten_replicate_eq_nil]
    unfold visit
    rw [List.mem_append]
    by_cases hn : n = 0
    · simp [hn]
    · by_cases hr : runs body = []
      · simp [hr]
      · simp [hn, hr]
  have hnodup : (visit (.block key n body)).Nodup ↔
      ((List.replicate n (visits body)).flatten).Nodup := by
    have hfresh : key ∉ (List.replicate n (visits body)).flatten :=
      fun h => (hturn.visited key h).1.2 rfl
    unfold visit
    split
    · rw [List.nil_append]
    · rw [List.singleton_append, List.nodup_cons]
      exact and_iff_right hfresh
  have hfirst : ∀ {c : Counts κ}, c key = 0 → counted (.block key n body) c =
      KeyedBlocks.times (andThen (counteds body) (KeyedBlocks.bump key)) n c := by
    intro c hc
    unfold counted
    rw [hc, Nat.sub_zero]
  have hagain : ∀ {c : Counts κ}, (∀ k ∈ live, Settled forms c k) → c key ≠ 0 →
      counted (.block key n body) c = ([], c) := by
    intro c hc hne
    have hle : n ≤ c key := by
      have h := (hc key hkey).resolve_left hne
      rwa [hform] at h
    unfold counted
    rw [Nat.sub_eq_zero_of_le hle]
    rfl
  have hcount : ∀ {c : Counts κ}, (∀ k ∈ live, Settled forms c k) → c key = 0 →
      (counted (.block key n body) c).2 key = n := by
    intro c hc hzero
    rw [hfirst hzero, hturn.frame c (hinner c hc) key (fun h => h.2 rfl), hzero]
    simp
  constructor
  case visited =>
    intro k hk
    rcases (hmem k).mp hk with ⟨rfl, h⟩ | hk
    · exact ⟨hkey, h⟩
    · exact ⟨(hturn.visited k hk).1.1, (hturn.visited k hk).2⟩
  case length_le =>
    intro c hc
    by_cases hzero : c key = 0
    · rw [hfirst hzero, hrun]
      exact hturn.length_le c (hinner c hc)
    · rw [hagain hc hzero]
      exact Nat.zero_le _
  case eq_iff =>
    intro c hc
    by_cases hzero : c key = 0
    · rw [hfirst hzero, hrun, hturn.eq_iff c (hinner c hc), hnodup]
      refine and_congr_right fun _ => ⟨fun h k hk => ?_, fun h k hk => h k ((hmem k).mpr (.inr hk))⟩
      rcases (hmem k).mp hk with ⟨rfl, -⟩ | hk
      · exact hzero
      · exact h k hk
    · rw [hagain hc hzero]
      constructor
      · intro h
        rw [visit_eq_nil _ h.symm]
        exact ⟨List.nodup_nil, fun k hk => by cases hk⟩
      · intro h
        by_contra hne
        exact hzero (h.2 key ((hmem key).mpr (.inl ⟨rfl, fun hs => hne (hsilent.mp hs).symm⟩)))
  case settled =>
    intro c hc k hk
    by_cases hzero : c key = 0
    · by_cases heq : k = key
      · subst heq
        right
        rw [hcount hc hzero, hform]
        exact Nat.le_refl n
      · rw [hfirst hzero]
        exact hturn.settled c (hinner c hc) k ⟨hk, heq⟩
    · rw [hagain hc hzero]
      exact hc k hk
  case started =>
    intro c hc h k hk hidle
    by_cases hzero : c key = 0
    · by_cases heq : k = key
      · subst heq
        have hn : n ≠ 0 := fun hn => hidle (hsilent.mpr (by rw [hrun, hn]; rfl))
        rw [hcount hc hzero]
        exact iff_of_false hn fun hk' => hk'.2 ((hmem k).mpr (.inl ⟨rfl, hidle⟩))
      · have hvisit : k ∈ visit (.block key n body) ↔
            k ∈ (List.replicate n (visits body)).flatten := by
          rw [hmem k]
          exact or_iff_right fun h => heq h.1
        rw [hfirst hzero, hrun] at h
        rw [hfirst hzero, hvisit]
        exact hturn.started c (hinner c hc) h k ⟨hk, heq⟩ hidle
    · rw [hagain hc hzero] at h ⊢
      have hnone : visit (.block key n body) = [] := visit_eq_nil _ h.symm
      rw [hnone]
      simp
  case frame =>
    intro c hc k hk
    by_cases hzero : c key = 0
    · have hne : k ≠ key := fun heq => hk (heq ▸ hkey)
      rw [hfirst hzero, hturn.frame c (hinner c hc) k fun h => hk h.1, if_neg hne]
      simp
    · rw [hagain hc hzero, Nat.add_zero]

end Tracks

mutual

theorem tracks {forms : κ → Shape} : (flow : Flow κ ι) → Follows forms flow →
    ∀ live : Set κ, (∀ k ∈ keys flow, k ∈ live) →
      Tracks forms live (fun _ => 0) (counted flow) (run flow) (visit flow)
  | .pass label, _, live, _ => by
      unfold run visit
      exact Tracks.pass label
  | .block key trips body, h, live, hlive => by
      have hkey : key ∉ keysAll body := key_not_mem_body h
      unfold Follows at h
      unfold keys at hlive
      refine Tracks.block (hlive key List.mem_cons_self) h.1 (tracksAll body h.2 _ fun k hk => ?_)
      exact ⟨hlive k (List.mem_cons_of_mem _ hk), fun heq => hkey (heq ▸ hk)⟩

theorem tracksAll {forms : κ → Shape} : (flows : List (Flow κ ι)) → FollowsAll forms flows →
    ∀ live : Set κ, (∀ k ∈ keysAll flows, k ∈ live) →
      Tracks forms live (fun _ => 0) (counteds flows) (runs flows) (visits flows)
  | [], _, live, _ => by
      unfold counteds runs visits
      exact Tracks.nothing
  | flow :: flows, h, live, hlive => by
      unfold FollowsAll at h
      unfold keysAll at hlive
      unfold counteds runs visits
      exact (tracks flow h.1 live fun k hk => hlive k (List.mem_append_left _ hk)).append
        (tracksAll flows h.2 live fun k hk => hlive k (List.mem_append_right _ hk))

end

/-- **The counted reading passes what the structured one passes** if and only if no key of a block
that passes anything is reached twice. -/
theorem counteds_eq_runs_iff {forms : κ → Shape} {flows : List (Flow κ ι)}
    (h : FollowsAll forms flows) :
    (counteds flows fun _ => 0).1 = runs flows ↔ (visits flows).Nodup := by
  have htracks := tracksAll flows h Set.univ fun k _ => Set.mem_univ k
  rw [htracks.eq_iff _ fun k _ => .inl rfl]
  exact and_iff_left fun k _ => rfl

end Tracks

end KeyedBlocks
