import Mathlib.Data.List.Chain
import PhiOS.Analysis.PollWindows
import PhiOS.Model.MacroScheduleWorker

/-!
# Chains of worker leases

A lease renews the one before it, or starts the next generation. In a chain of such leases the indices
of a generation are 0, 1, 2, … (`LeaseChain.indices`).
-/

set_option autoImplicit false

namespace PhiOS

open Calendar

/-! ## Chains of leases -/

section Chains

variable (rt : WorkerRuntime)

/-- The text is read as the instant. -/
def WorkerRuntime.Reads (text : String) (t : ℤ) : Prop :=
  rt.iso.fromisoformat (replaceZulu text) = some (.aware t)

/-- The lease has been acquired and renewed at these instants, the first one not after the second,
and is valid for its seconds after that. -/
structure LeaseTimes (lease : ScheduleWorkerLease) (acquired renewed : ℤ) : Prop where
  acquiredAt : rt.Reads lease.acquiredAt acquired
  renewedAt : rt.Reads lease.renewedAt renewed
  validUntil : rt.Reads lease.validUntil (renewed + secondsMicros lease.leaseSeconds)
  ordered : acquired ≤ renewed
  lasting : 0 < lease.leaseSeconds

/-- The lease names the one before it. -/
def Links (a b : ScheduleWorkerLease) : Prop :=
  b.previousLeaseSha256 = some (a.leaseSha256 rt)

/-- The lease renews the one before it, at an instant that is not after its end. -/
structure Renews (a b : ScheduleWorkerLease) : Prop where
  links : Links rt a b
  generation : b.generation = a.generation
  renewalIndex : b.renewalIndex = a.renewalIndex + 1
  leaseSeconds : b.leaseSeconds = a.leaseSeconds
  times : ∃ acquired renewed renewed', LeaseTimes rt a acquired renewed ∧
    LeaseTimes rt b acquired renewed' ∧ renewed' ≤ renewed + secondsMicros a.leaseSeconds

/-- The lease starts the generation after the one before it. -/
structure Succeeds (a b : ScheduleWorkerLease) : Prop where
  links : Links rt a b
  generation : b.generation = a.generation + 1
  renewalIndex : b.renewalIndex = 0

/-- The leases of a service: the first one starts the first generation, and each of the others renews
the one before it or starts the next generation. -/
structure LeaseChain (leases : List ScheduleWorkerLease) : Prop where
  first : ∀ lease ∈ leases.head?, lease.generation = 1 ∧ lease.renewalIndex = 0 ∧
    lease.previousLeaseSha256 = none
  steps : leases.IsChain fun a b => Renews rt a b ∨ Succeeds rt a b
  timed : ∀ lease ∈ leases, ∃ acquired renewed, LeaseTimes rt lease acquired renewed

/-- The tick is recorded under the lease, at an instant that is not after its end. -/
structure Covers (lease : ScheduleWorkerLease) (tick : ScheduleWorkerTickReceipt) : Prop where
  serviceId : tick.serviceId = lease.serviceId
  leaseSha256 : tick.leaseSha256 = lease.leaseSha256 rt
  before : ∃ t validUntil, rt.Reads tick.tickAt t ∧ rt.Reads lease.validUntil validUntil ∧
    t ≤ validUntil

end Chains

section ChainLemmas

variable {rt : WorkerRuntime} {leases : List ScheduleWorkerLease} {a b : ScheduleWorkerLease}

theorem WorkerRuntime.Reads.unique {text : String} {s t : ℤ} (hs : rt.Reads text s)
    (ht : rt.Reads text t) : s = t := by
  have hsame : some (DateTime.aware s) = some (.aware t) := hs.symm.trans ht
  exact DateTime.aware.inj (Option.some.inj hsame)

/-- The chain goes on from its last lease. -/
theorem LeaseChain.append (h : LeaseChain rt leases) (hlast : leases.getLast? = some a)
    (hstep : Renews rt a b ∨ Succeeds rt a b)
    (htimed : ∃ acquired renewed, LeaseTimes rt b acquired renewed) :
    LeaseChain rt (leases ++ [b]) where
  first := by
    intro lease hhead
    apply h.first
    have hne : leases ≠ [] := by
      rintro rfl
      cases hlast
    rw [List.head?_append_of_ne_nil _ hne] at hhead
    exact hhead
  steps := by
    apply List.isChain_append.mpr
    refine ⟨h.steps, List.isChain_singleton b, ?_⟩
    intro x hx y hy
    rw [hlast] at hx
    cases hx
    cases hy
    exact hstep
  timed := by
    intro lease hmem
    rcases List.mem_append.mp hmem with hold | hnew
    · exact h.timed lease hold
    · rw [List.mem_singleton.mp hnew]
      exact htimed

theorem leaseChain_singleton (hgeneration : b.generation = 1) (hindex : b.renewalIndex = 0)
    (hprevious : b.previousLeaseSha256 = none)
    (htimed : ∃ acquired renewed, LeaseTimes rt b acquired renewed) : LeaseChain rt [b] where
  first := by
    intro lease hhead
    cases hhead
    exact ⟨hgeneration, hindex, hprevious⟩
  steps := List.isChain_singleton b
  timed := by
    intro lease hmem
    rw [List.mem_singleton.mp hmem]
    exact htimed

/-- The leases of a generation. -/
def ofGeneration (leases : List ScheduleWorkerLease) (generation : ℤ) : List ScheduleWorkerLease :=
  leases.filter (·.generation = generation)

/-- In a chain the last generation is the greatest, and its last lease has the greatest
index. The induction is from the last lease. -/
theorem LeaseChain.indices (h : LeaseChain rt leases) :
    (∀ last ∈ leases.getLast?, (∀ lease ∈ leases, lease.generation ≤ last.generation) ∧
      last.renewalIndex + 1 = (ofGeneration leases last.generation).length) ∧
    ∀ generation, (ofGeneration leases generation).map (·.renewalIndex) =
      (List.range (ofGeneration leases generation).length).map (↑) := by
  induction leases using List.reverseRecOn with
  | nil => exact ⟨by simp, fun _ => rfl⟩
  | append_singleton leases b ih =>
      have hchain : LeaseChain rt leases := by
        refine ⟨?_, (List.isChain_append.mp h.steps).1, ?_⟩
        · intro lease hhead
          apply h.first
          cases leases with
          | nil => cases hhead
          | cons c rest => exact hhead
        · exact fun lease hmem => h.timed lease (List.mem_append_left _ hmem)
      obtain ⟨hlast, hall⟩ := ih hchain
      have hother : ∀ generation, b.generation ≠ generation →
          ofGeneration (leases ++ [b]) generation = ofGeneration leases generation := by
        intro generation hne
        simp [ofGeneration, hne]
      have hsame : ofGeneration (leases ++ [b]) b.generation =
          ofGeneration leases b.generation ++ [b] := by
        simp [ofGeneration]
      -- what the new lease counts, and that no generation is above its own
      have hnext : (∀ lease ∈ leases, lease.generation ≤ b.generation) ∧
          b.renewalIndex = (ofGeneration leases b.generation).length := by
        cases hprior : leases.getLast? with
        | none =>
            have hempty : leases = [] := List.getLast?_eq_none_iff.mp hprior
            subst hempty
            obtain ⟨-, hindex, -⟩ := h.first b rfl
            exact ⟨by simp, by simpa [ofGeneration] using hindex⟩
        | some a =>
            obtain ⟨hgreatest, hcount⟩ := hlast a hprior
            have hstep := (List.isChain_append.mp h.steps).2.2 a hprior b rfl
            rcases hstep with hrenews | hsucceeds
            · rw [hrenews.generation, hrenews.renewalIndex]
              exact ⟨hgreatest, hcount⟩
            · have hnone : ofGeneration leases b.generation = [] := by
                apply List.filter_eq_nil_iff.mpr
                intro lease hmem
                have hle := hgreatest lease hmem
                have hgeneration := hsucceeds.generation
                simp only [decide_eq_true_eq]
                omega
              refine ⟨?_, ?_⟩
              · intro lease hmem
                have hle := hgreatest lease hmem
                have hgeneration := hsucceeds.generation
                omega
              · rw [hnone, hsucceeds.renewalIndex]
                rfl
      refine ⟨?_, ?_⟩
      · intro last hmem
        have heq : b = last := by simpa using hmem
        subst heq
        refine ⟨?_, ?_⟩
        · intro lease hmem
          rcases List.mem_append.mp hmem with hold | hnew
          · exact hnext.1 lease hold
          · rw [List.mem_singleton.mp hnew]
        · rw [hsame, List.length_append, hnext.2]
          rfl
      · intro generation
        by_cases hgeneration : b.generation = generation
        · subst hgeneration
          rw [hsame, List.map_append, List.length_append, hall, List.length_singleton,
            List.range_succ, List.map_append]
          simp [hnext.2]
        · rw [hother generation hgeneration]
          exact hall generation

end ChainLemmas

/-! ## What the checks give -/

section Checked

variable {rt : WorkerRuntime}

theorem parseWorkerUtc_eq_ok {value field : String} {t : ℤ}
    (h : parseWorkerUtc rt value field = .ok t) : rt.Reads value t := by
  obtain ⟨u, hread, h⟩ := bind_eq_ok.mp h
  obtain ⟨hsame, -, -⟩ := datetime_eq_ok.mp h
  rw [← hsame]
  obtain ⟨text, htext, hread⟩ := bind_eq_ok.mp hread
  rw [eq_of_requireText htext] at hread
  split at hread
  · cases hread
  · cases hread
  · rename_i utc heq
    rw [← Except.ok.inj hread]
    exact heq

theorem reads_utcIso {t u : ℤ} (h : datetime t = .ok u) : rt.Reads (utcIso u) u := by
  obtain ⟨hsame, -, -⟩ := datetime_eq_ok.mp h
  rw [hsame] at h
  exact rt.reads h

theorem datetime_of_aware {value : DateTime} {field : String} {t : ℤ}
    (h : requireWorkerAware value field = .ok t) : datetime t = .ok t := by
  cases value with
  | naive => cases h
  | aware utc =>
      obtain ⟨hsame, -, -⟩ := datetime_eq_ok.mp h
      rw [← hsame] at h ⊢
      exact h

/-- A lease that is accepted has its three instants, in order, and lasts. -/
theorem ScheduleWorkerLease.validate_eq_ok {lease : ScheduleWorkerLease}
    (h : lease.validate rt = .ok ()) :
    (∃ acquired renewed, rt.Reads lease.acquiredAt acquired ∧ rt.Reads lease.renewedAt renewed ∧
      acquired ≤ renewed) ∧ 0 < lease.leaseSeconds := by
  unfold ScheduleWorkerLease.validate at h
  obtain ⟨_, _, _, _, h⟩ := ok_past_four h
  obtain ⟨_, _, h⟩ := ok_past_two h
  obtain ⟨acquired, hacquired, h⟩ := bind_eq_ok.mp h
  obtain ⟨renewed, hrenewed, h⟩ := bind_eq_ok.mp h
  obtain ⟨validUntil, -, h⟩ := bind_eq_ok.mp h
  obtain ⟨_, hordered, h⟩ := bind_eq_ok.mp h
  obtain ⟨seconds, hseconds, -⟩ := bind_eq_ok.mp h
  have hnot := raiseIf_eq_ok.mp hordered
  push Not at hnot
  unfold requireWorkerInt at hseconds
  obtain ⟨_, hleast, -⟩ := bind_eq_ok.mp hseconds
  have hlasting := raiseIf_eq_ok.mp hleast
  refine ⟨⟨acquired, renewed, parseWorkerUtc_eq_ok hacquired, parseWorkerUtc_eq_ok hrenewed,
    hnot.1⟩, ?_⟩
  omega

end Checked

end PhiOS
