import Mathlib.Algebra.Order.Ring.Int
import Mathlib.Data.List.Chain
import Mathlib.Tactic.Ring
import PhiOS.Model.TemporalEnvelope

/-!
# The windows of a temporal envelope

Each sample of a series has a window for its start: what the cadence admits, cut down to what leaves
the remaining samples room to meet the bounds of the span. The room that is left (`Room`) holds
before the series where the envelope is feasible, and a start in its window keeps it; so no window
is empty while the starts before lay in theirs, and after the last sample the room says that the span
is met.
-/

set_option autoImplicit false

namespace PhiOS

namespace Envelope

/-- Some series meets the envelope. -/
structure Feasible (envelope : Envelope) : Prop where
  count : 2 ≤ envelope.count
  interval_pos : 0 < envelope.minimumInterval
  interval : envelope.minimumInterval ≤ envelope.maximumInterval
  span : envelope.minimumSpan ≤ envelope.maximumSpan
  shortest : (envelope.count - 1) * envelope.minimumInterval ≤ envelope.maximumSpan
  longest : envelope.minimumSpan ≤ (envelope.count - 1) * envelope.maximumInterval

/-- The interval between two starts is in its bounds. -/
def Paced (envelope : Envelope) (previous started : ℤ) : Prop :=
  envelope.minimumInterval ≤ started - previous ∧ started - previous ≤ envelope.maximumInterval

/-- Every interval and the span of the starts are in their bounds. -/
def Meets (envelope : Envelope) (first : ℤ) (later : List ℤ) : Prop :=
  (first :: later).IsChain envelope.Paced ∧
    envelope.minimumSpan ≤ later.getLastD first - first ∧
    later.getLastD first - first ≤ envelope.maximumSpan

/-- The start lies in its window. -/
def InWindow (envelope : Envelope) (index : ℕ) (first previous started : ℤ) : Prop :=
  envelope.earliestStart index first previous ≤ started ∧
    started ≤ envelope.latestStart index first previous

/-- All starts from this one on lie in their windows. -/
def InWindows (envelope : Envelope) (first : ℤ) : ℕ → ℤ → List ℤ → Prop
  | _, _, [] => True
  | index, previous, started :: rest =>
      envelope.InWindow index first previous started ∧
        envelope.InWindows first (index + 1) started rest

/-- Starts that are each the earliest that is admitted. -/
def earliestStarts (envelope : Envelope) (first : ℤ) : ℕ → ℤ → ℕ → List ℤ
  | _, _, 0 => []
  | index, previous, samples + 1 =>
      let started := envelope.earliestStart index first previous
      started :: envelope.earliestStarts first (index + 1) started samples

/-- Where so many samples are still to come, intervals in their bounds can lead to a span in its
bounds. -/
structure Room (envelope : Envelope) (remaining elapsed : ℤ) : Prop where
  lower : envelope.minimumSpan ≤ elapsed + remaining * envelope.maximumInterval
  upper : elapsed + remaining * envelope.minimumInterval ≤ envelope.maximumSpan

section Windows

variable {envelope : Envelope} {index : ℕ} {first previous started : ℤ} {later : List ℤ}

theorem remainingAfter_succ : envelope.remainingAfter (index + 1) = envelope.remainingAfter index - 1 := by
  unfold remainingAfter
  push_cast
  ring

theorem Feasible.room (h : envelope.Feasible) : envelope.Room (envelope.count - 1) 0 := by
  refine ⟨?_, ?_⟩
  · rw [zero_add]
    exact h.longest
  · rw [zero_add]
    exact h.shortest

theorem Feasible.earliest_le_latest (h : envelope.Feasible)
    (hremaining : 0 ≤ envelope.remainingAfter index)
    (hroom : envelope.Room (envelope.remainingAfter index + 1) (previous - first)) :
    envelope.earliestStart index first previous ≤ envelope.latestStart index first previous := by
  obtain ⟨hlower, hupper⟩ := hroom
  rw [add_mul, one_mul] at hlower hupper
  have hinterval := h.interval
  have hspan := h.span
  have hspread : envelope.remainingAfter index * envelope.minimumInterval ≤
      envelope.remainingAfter index * envelope.maximumInterval :=
    mul_le_mul_of_nonneg_left h.interval hremaining
  unfold earliestStart latestStart
  refine max_le (le_min ?_ ?_) (le_min ?_ ?_) <;> omega

theorem InWindow.room (h : envelope.InWindow index first previous started) :
    envelope.Room (envelope.remainingAfter index) (started - first) := by
  obtain ⟨hearliest, hlatest⟩ := h
  have hlower := (le_max_right _ _).trans hearliest
  have hupper := hlatest.trans (min_le_right _ _)
  refine ⟨?_, ?_⟩ <;> omega

theorem InWindow.paced (h : envelope.InWindow index first previous started) :
    envelope.Paced previous started := by
  obtain ⟨hearliest, hlatest⟩ := h
  have hlower := (le_max_left _ _).trans hearliest
  have hupper := hlatest.trans (min_le_left _ _)
  refine ⟨?_, ?_⟩ <;> omega

theorem InWindows.room (h : envelope.InWindows first index previous later)
    (hroom : envelope.Room (envelope.remainingAfter index + 1) (previous - first)) :
    envelope.Room (envelope.remainingAfter (index + later.length) + 1)
      (later.getLastD previous - first) := by
  induction later generalizing index previous with
  | nil => exact hroom
  | cons started later ih =>
      obtain ⟨hin, hrest⟩ := h
      have hnext := hin.room
      rw [show envelope.remainingAfter index = envelope.remainingAfter (index + 1) + 1 by
        rw [remainingAfter_succ]; ring] at hnext
      have hlast := ih hrest hnext
      rw [List.getLastD_cons, List.length_cons, Nat.add_comm later.length 1, ← Nat.add_assoc]
      exact hlast

theorem InWindows.paced (h : envelope.InWindows first index previous later) :
    (previous :: later).IsChain envelope.Paced := by
  induction later generalizing index previous with
  | nil => exact List.isChain_singleton _
  | cons started later ih =>
      obtain ⟨hin, hrest⟩ := h
      exact List.isChain_cons_cons.mpr ⟨hin.paced, ih hrest⟩

/-- A series with all starts in their windows meets the envelope. -/
theorem Feasible.meets (h : envelope.Feasible) (hlength : (later.length : ℤ) + 1 = envelope.count)
    (hin : envelope.InWindows first 1 first later) : envelope.Meets first later := by
  have hzero : envelope.remainingAfter 1 + 1 = envelope.count - 1 := by
    unfold remainingAfter
    omega
  have hroom : envelope.Room (envelope.remainingAfter 1 + 1) (first - first) := by
    rw [hzero, sub_self]
    exact h.room
  have hlast := hin.room hroom
  have hnone : envelope.remainingAfter (1 + later.length) + 1 = 0 := by
    unfold remainingAfter
    push_cast
    omega
  rw [hnone] at hlast
  obtain ⟨hlower, hupper⟩ := hlast
  rw [zero_mul, add_zero] at hlower hupper
  exact ⟨hin.paced, hlower, hupper⟩

theorem Paced.le_getLastD (h : (previous :: later).IsChain envelope.Paced) :
    previous + later.length * envelope.minimumInterval ≤ later.getLastD previous := by
  induction later generalizing previous with
  | nil => simp
  | cons started later ih =>
      obtain ⟨hpaced, hrest⟩ := List.isChain_cons_cons.mp h
      have hlast := ih hrest
      have hfirst := hpaced.1
      rw [List.getLastD_cons, List.length_cons]
      push_cast
      rw [add_mul, one_mul]
      omega

/-- After a start that lies after its window no later starts meet the envelope. -/
theorem not_meets_of_late {earlier : List ℤ}
    (hlength : (earlier.length : ℤ) + 1 + later.length + 1 = envelope.count)
    (hlate : envelope.latestStart (earlier.length + 1) first (earlier.getLastD first) < started) :
    ¬ envelope.Meets first (earlier ++ started :: later) := by
  rintro ⟨hpaced, -, hspan⟩
  have hremaining : envelope.remainingAfter (earlier.length + 1) = later.length := by
    unfold remainingAfter
    push_cast
    omega
  obtain ⟨-, hrest, hlink⟩ := List.isChain_append.mp (List.cons_append .. ▸ hpaced)
  have hprevious : earlier.getLastD first ∈ (first :: earlier).getLast? := by
    rw [List.getLast?_cons, List.getLastD_eq_getLast?]
    rfl
  have hinterval : envelope.Paced (earlier.getLastD first) started := hlink _ hprevious _ rfl
  have hlast := Paced.le_getLastD hrest
  have hgetLast : (earlier ++ started :: later).getLastD first = later.getLastD started := by
    simp only [List.getLastD_eq_getLast?, List.getLast?_append, List.getLast?_cons]
    rfl
  rw [hgetLast] at hspan
  unfold latestStart at hlate
  rw [hremaining] at hlate
  rcases min_lt_iff.mp hlate with hcadence | henvelope
  · have hupper := hinterval.2
    omega
  · omega

/-- The earliest starts lie in their windows. The induction is on the samples that are
still to come. -/
theorem Feasible.inWindows_earliestStarts (h : envelope.Feasible) {samples : ℕ}
    (hsamples : envelope.remainingAfter index + 1 = samples)
    (hroom : envelope.Room (envelope.remainingAfter index + 1) (previous - first)) :
    envelope.InWindows first index previous (envelope.earliestStarts first index previous samples) ∧
      (envelope.earliestStarts first index previous samples).length = samples := by
  induction samples generalizing index previous with
  | zero => exact ⟨trivial, rfl⟩
  | succ samples ih =>
      have hremaining : envelope.remainingAfter index = samples := by
        rw [Nat.cast_succ] at hsamples
        omega
      have hle := h.earliest_le_latest (by omega) hroom
      have hin : envelope.InWindow index first previous
          (envelope.earliestStart index first previous) := ⟨le_refl _, hle⟩
      have hnext := hin.room
      have hsucc : envelope.remainingAfter (index + 1) + 1 = envelope.remainingAfter index := by
        rw [remainingAfter_succ]
        ring
      rw [← hsucc] at hnext
      obtain ⟨hrest, hlength⟩ := ih (hsucc.trans hremaining) hnext
      exact ⟨⟨hin, hrest⟩, congrArg (· + 1) hlength⟩

end Windows

/-! ## What the samples say -/

section Samples

variable {envelope : Envelope} {index : ℕ} {first previous : ℤ}
  {series : List (ℤ × RealityVerdict)} {verdict : RealityVerdict}

/-- The loop finds out whether the starts lie in their windows. The induction is on the
samples. -/
theorem startWindows_satisfied :
    ((envelope.nextSamples first index previous series).all
      (·.startWindowSatisfied != some false)) = true ↔
      envelope.InWindows first index previous (series.map (·.1)) := by
  induction series generalizing index previous with
  | nil => simp [nextSamples, InWindows]
  | cons sample series ih =>
      obtain ⟨started, verdict⟩ := sample
      have hsample : ((envelope.nextSample index first previous started verdict).startWindowSatisfied
          != some false) = true ↔ envelope.InWindow index first previous started := by
        simp [nextSample, InWindow]
      rw [nextSamples, List.all_cons, Bool.and_eq_true, hsample, ih]
      rfl

/-- The loop finds out whether the intervals are in their bounds. The induction is on the
samples. -/
theorem cadences_satisfied :
    ((envelope.nextSamples first index previous series).all (·.cadenceSatisfied != some false)) =
      true ↔ (previous :: series.map (·.1)).IsChain envelope.Paced := by
  induction series generalizing index previous with
  | nil => simp [nextSamples]
  | cons sample series ih =>
      obtain ⟨started, verdict⟩ := sample
      have hsample : ((envelope.nextSample index first previous started verdict).cadenceSatisfied
          != some false) = true ↔ envelope.Paced previous started := by
        simp [nextSample, Paced]
      rw [nextSamples, List.all_cons, Bool.and_eq_true, hsample, ih, List.map_cons,
        List.isChain_cons_cons]

theorem lastSpan_eq {sample : EnvelopeSample} (hsample : sample.seriesSpanSoFar = previous - first) :
    (sample :: envelope.nextSamples first index previous series).getLast?.map (·.seriesSpanSoFar) =
      some ((series.map (·.1)).getLastD previous - first) := by
  induction series generalizing index previous sample with
  | nil =>
      rw [nextSamples, List.getLast?_singleton, Option.map_some, hsample]
      rfl
  | cons next series ih =>
      obtain ⟨started, verdict⟩ := next
      have hnext : (envelope.nextSample index first previous started verdict).seriesSpanSoFar =
          started - first := rfl
      rw [nextSamples, List.getLast?_cons_cons, List.map_cons, List.getLastD_cons]
      exact ih hnext

theorem observe_satisfied :
    (envelope.observe ((first, verdict) :: series)).temporalEnvelopeSatisfied = true ↔
      envelope.Meets first (series.map (·.1)) := by
  have hzero : (firstSample verdict).seriesSpanSoFar = first - first := (sub_self first).symm
  have hlast : (envelope.samples ((first, verdict) :: series)).getLast?.map (·.seriesSpanSoFar) =
      some ((series.map (·.1)).getLastD first - first) := lastSpan_eq hzero
  have hcadence : (envelope.samples ((first, verdict) :: series)).all
      (·.cadenceSatisfied != some false) = true ↔
        (first :: series.map (·.1)).IsChain envelope.Paced := by
    rw [samples, List.all_cons, Bool.and_eq_true, cadences_satisfied]
    exact ⟨And.right, fun h => ⟨rfl, h⟩⟩
  unfold observe assess Meets
  dsimp only
  rw [hlast, Bool.and_eq_true, hcadence]
  simp

theorem observe_schedulingPath :
    (envelope.observe ((first, verdict) :: series)).schedulingPathSatisfied = true ↔
      envelope.InWindows first 1 first (series.map (·.1)) := by
  show (firstSample verdict :: envelope.nextSamples first 1 first series).all
    (·.startWindowSatisfied != some false) = true ↔ _
  rw [List.all_cons, Bool.and_eq_true, startWindows_satisfied]
  exact ⟨And.right, fun h => ⟨rfl, h⟩⟩

end Samples

/-! ## Accepted claims -/

section Claims

variable {claim : EnvelopeClaim} {envelope : Envelope}

theorem errorUnless_eq_nil {check : Bool} {error : String} : errorUnless check error = [] ↔ check = true := by
  cases check <;> simp [errorUnless]

theorem inRange_eq_true {low high : ℤ} {value : ℤ} :
    inRange low high (some value) = true ↔ low ≤ value ∧ value ≤ high := by
  simp [inRange]

/-- A claim that is accepted is feasible. -/
theorem feasible_of_validationErrors (h : claim.validationErrors = [])
    (hfields : claim.fields = some envelope) : envelope.Feasible := by
  obtain ⟨count, minInterval, maxInterval, minSpan, maxSpan⟩ := claim
  -- every field is there
  cases count with | none => cases hfields | some count =>
  cases minInterval with | none => cases hfields | some minInterval =>
  cases maxInterval with | none => cases hfields | some maxInterval =>
  cases minSpan with | none => cases hfields | some minSpan =>
  cases maxSpan with | none => cases hfields | some maxSpan =>
  obtain rfl : (⟨count, minInterval, maxInterval, minSpan, maxSpan⟩ : Envelope) = envelope :=
    Option.some.inj hfields
  unfold EnvelopeClaim.validationErrors at h
  simp only [List.append_eq_nil_iff, errorUnless_eq_nil, and_assoc] at h
  obtain ⟨hcount, hmin, hmax, hordered, hminSpan, hmaxSpan, hspans, hfeasible⟩ := h
  have hinterval : EnvelopeClaim.ordered (some minInterval) (some maxInterval) = true := by
    simpa [hmin, hmax] using hordered
  have hspan : EnvelopeClaim.ordered (some minSpan) (some maxSpan) = true := by
    simpa [hminSpan, hmaxSpan] using hspans
  rw [hcount, hmin, hmax, hinterval, hminSpan, hmaxSpan, hspan] at hfeasible
  have hnot : EnvelopeClaim.infeasible ⟨count, minInterval, maxInterval, minSpan, maxSpan⟩ = false := by
    simpa [EnvelopeClaim.fields] using hfeasible
  unfold EnvelopeClaim.infeasible at hnot
  rw [Bool.or_eq_false_iff, decide_eq_false_iff_not, decide_eq_false_iff_not] at hnot
  have hpos := (inRange_eq_true.mp hmin).1
  unfold centiseconds at hpos
  refine ⟨(inRange_eq_true.mp hcount).1, ?_, ?_, ?_, not_lt.mp hnot.1, not_lt.mp hnot.2⟩
  · show 0 < minInterval
    omega
  · simpa [EnvelopeClaim.ordered] using hinterval
  · simpa [EnvelopeClaim.ordered] using hspan

end Claims

/-- MAIN: **The scheduler keeps a feasible envelope feasible.** Every claim that the validator accepts
is feasible. The verdict says whether all intervals and the span are in their bounds, and whether all
starts lie in their windows. While the earlier starts lie in their windows the next window is not
empty; a series with all starts in their windows meets its bounds; after a start that lies after its
window no remaining starts meet them; and the earliest starts always do. -/
theorem envelope_windows :
    (∀ (claim : EnvelopeClaim) (envelope : Envelope), claim.validationErrors = [] →
      claim.fields = some envelope → envelope.Feasible) ∧
    ∀ envelope : Envelope, envelope.Feasible →
      (∀ first verdict series,
        ((envelope.observe ((first, verdict) :: series)).temporalEnvelopeSatisfied = true ↔
          envelope.Meets first (series.map (·.1))) ∧
        ((envelope.observe ((first, verdict) :: series)).schedulingPathSatisfied = true ↔
          envelope.InWindows first 1 first (series.map (·.1)))) ∧
      (∀ first earlier, (earlier.length : ℤ) + 1 < envelope.count →
        envelope.InWindows first 1 first earlier →
        envelope.earliestStart (earlier.length + 1) first (earlier.getLastD first) ≤
          envelope.latestStart (earlier.length + 1) first (earlier.getLastD first)) ∧
      (∀ first later, (later.length : ℤ) + 1 = envelope.count →
        envelope.InWindows first 1 first later → envelope.Meets first later) ∧
      (∀ first earlier started later,
        (earlier.length : ℤ) + 1 + later.length + 1 = envelope.count →
        envelope.latestStart (earlier.length + 1) first (earlier.getLastD first) < started →
        ¬ envelope.Meets first (earlier ++ started :: later)) ∧
      ∀ first, envelope.Meets first
        (envelope.earliestStarts first 1 first (envelope.count - 1).toNat) := by
  refine ⟨fun claim envelope h hfields => feasible_of_validationErrors h hfields, ?_⟩
  intro envelope hfeasible
  have hzero : envelope.remainingAfter 1 + 1 = envelope.count - 1 := by
    unfold remainingAfter
    omega
  have hroom : ∀ first, envelope.Room (envelope.remainingAfter 1 + 1) (first - first) := by
    intro first
    rw [hzero, sub_self]
    exact hfeasible.room
  refine ⟨fun first verdict series => ⟨observe_satisfied, observe_schedulingPath⟩, ?_, ?_, ?_, ?_⟩
  · intro first earlier hlength hin
    have hnext := hin.room (hroom first)
    rw [Nat.add_comm 1 earlier.length] at hnext
    refine hfeasible.earliest_le_latest ?_ hnext
    unfold remainingAfter
    push_cast
    omega
  · intro first later hlength hin
    exact hfeasible.meets hlength hin
  · intro first earlier started later hlength hlate
    exact not_meets_of_late hlength hlate
  · intro first
    have hcount := hfeasible.count
    have hsamples : envelope.remainingAfter 1 + 1 = ((envelope.count - 1).toNat : ℤ) := by
      rw [hzero]
      omega
    obtain ⟨hin, hlength⟩ := hfeasible.inWindows_earliestStarts hsamples (hroom first)
    refine hfeasible.meets ?_ hin
    rw [hlength]
    omega

/-- WITNESS: Three samples, half a second to a second apart, within at most one and a half seconds. -/
theorem envelope_windows_three :
    (⟨3, centiseconds 50, centiseconds 100, centiseconds 120, centiseconds 150⟩ : Envelope).Meets 0
        [centiseconds 50, centiseconds 120] ∧
      ¬ (⟨3, centiseconds 50, centiseconds 100, centiseconds 120, centiseconds 150⟩ : Envelope).Meets
        0 [centiseconds 101, centiseconds 151] := by
  have haccepted : EnvelopeClaim.validationErrors ⟨some 3, some (centiseconds 50),
      some (centiseconds 100), some (centiseconds 120), some (centiseconds 150)⟩ = [] := by decide
  obtain ⟨hvalid, hwindows⟩ := envelope_windows
  have hfeasible := hvalid _ _ haccepted rfl
  obtain ⟨-, -, hmeets, hlate, -⟩ := hwindows _ hfeasible
  refine ⟨hmeets 0 [centiseconds 50, centiseconds 120] rfl ?_, ?_⟩
  · unfold InWindows InWindows InWindows InWindow
    decide
  · exact hlate 0 [] (centiseconds 101) [centiseconds 151] rfl (by decide)

end Envelope

end PhiOS
