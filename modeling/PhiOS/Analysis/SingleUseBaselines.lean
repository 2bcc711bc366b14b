import PhiOS.Model.TransitionCoordinator
import Mathlib.Tactic.Linarith
import Mathlib.Tactic.NormNum
import Mathlib.Data.Rat.Cast.Order
import Mathlib.Algebra.Order.Floor.Ring

/-!
# Baselines are used once

A baseline is in the slot from the refresh that captured it to the next call that takes it, fills
the slot anew or empties it. What a completed outcome compares with is therefore the latest one, and
nobody else's. Its age is another matter: it is decided on whole milliseconds, and dropping what is
behind the point lets a click pass that was made up to a millisecond before the baseline, or up to a
millisecond too late.
-/

set_option autoImplicit false

namespace PhiOS

namespace TransitionCoordinator

/-! ## Ages -/

/-- What is documented of doubles: rounding keeps the order and the integers of 53 bits, it is off
by one part in 2^53 at most, and minus a thousandth of a second is minus one millisecond. -/
structure LawfulDouble (fl : ℚ → ℚ) : Prop where
  mono : ∀ {x y : ℚ}, x ≤ y → fl x ≤ fl y
  exact_int : ∀ n : ℤ, |n| ≤ 2 ^ 53 → fl n = n
  close : ∀ x : ℚ, 1 / 1000000 ≤ x → x ≤ 10000 → x * (1 - 1 / 2 ^ 53) ≤ fl x
  thousandth : fl (fl (-1 / 1000) * 1000) = -1

theorem truncate_le {value : ℚ} {n : ℤ} (hn : n < 0) (h : value ≤ n) : truncate value ≤ n := by
  have hneg : ¬ 0 ≤ value := by
    have hcast : (n : ℚ) < 0 := by exact_mod_cast hn
    linarith
  unfold truncate
  rw [if_neg hneg]
  exact Int.ceil_le.mpr h

theorem le_truncate {value : ℚ} {n : ℤ} (hn : 0 ≤ n) (h : (n : ℚ) ≤ value) : n ≤ truncate value := by
  have hpos : 0 ≤ value := by
    have hcast : (0 : ℚ) ≤ n := by exact_mod_cast hn
    linarith
  unfold truncate
  rw [if_pos hpos]
  exact Int.le_floor.mpr h

/-- The milliseconds of a difference in microseconds. -/
def millisecondsOf (fl : ℚ → ℚ) (delta : ℤ) : ℤ :=
  truncate (fl (fl (delta / 1000000) * 1000))

theorem milliseconds_neg {fl : ℚ → ℚ} (hfl : LawfulDouble fl) {delta : ℤ} (h : delta ≤ -1000) :
    millisecondsOf fl delta < 0 := by
  have hcast : (delta : ℚ) ≤ -1000 := by exact_mod_cast h
  have hseconds : fl (delta / 1000000) ≤ fl (-1 / 1000) := by
    apply hfl.mono
    linarith
  have hscaled : fl (fl (delta / 1000000) * 1000) ≤ -1 := by
    rw [← hfl.thousandth]
    apply hfl.mono
    linarith
  have htruncated : millisecondsOf fl delta ≤ -1 := by
    apply truncate_le (by omega)
    push_cast
    exact hscaled
  omega

/-- A click more than a millisecond past the limit is past it in whole milliseconds. -/
theorem milliseconds_gt {fl : ℚ → ℚ} (hfl : LawfulDouble fl) {delta limit : ℤ} (hlimit : 1 ≤ limit)
    (hmax : limit ≤ 5000) (h : 1000 * (limit + 1) < delta) : limit < millisecondsOf fl delta := by
  have hlow : (1 : ℚ) ≤ limit := by exact_mod_cast hlimit
  have hhigh : (limit : ℚ) ≤ 5000 := by exact_mod_cast hmax
  have hcast : 1000 * ((limit : ℚ) + 1) + 1 ≤ delta := by
    have hsucc : 1000 * (limit + 1) + 1 ≤ delta := by omega
    exact_mod_cast hsucc
  -- the first instant past the limit, in seconds
  have hclose := hfl.close ((1000 * ((limit : ℚ) + 1) + 1) / 1000000) (by linarith) (by linarith)
  have hseconds : fl ((1000 * ((limit : ℚ) + 1) + 1) / 1000000) ≤ fl (delta / 1000000) := by
    apply hfl.mono
    linarith
  have hscaled : ((limit + 1 : ℤ) : ℚ) ≤ fl (delta / 1000000) * 1000 := by
    push_cast
    nlinarith
  have hexact : fl ((limit + 1 : ℤ) : ℚ) = ((limit + 1 : ℤ) : ℚ) := by
    apply hfl.exact_int
    rw [abs_of_nonneg (by omega)]
    omega
  have hrounded : ((limit + 1 : ℤ) : ℚ) ≤ fl (fl (delta / 1000000) * 1000) := by
    rw [← hexact]
    exact hfl.mono hscaled
  have htruncated : limit + 1 ≤ millisecondsOf fl delta := le_truncate (by omega) hrounded
  omega

variable {rt : CoordinatorRuntime} {settings : Settings}

/-- A click is near the end of what its baseline covers, and outside: it was made less than a
millisecond before the baseline was captured, or past the limit by a millisecond at most. -/
def NearMiss (rt : CoordinatorRuntime) (settings : Settings)
    (baseline : GhostWalkTransitionBaseline) (clickObservedAt : String) : Prop :=
  ∃ captured click, timestamp rt baseline.capturedAt = .ok captured ∧
    timestamp rt clickObservedAt = .ok click ∧
    ((-1000 < click - captured ∧ click - captured < 0) ∨
      (1000 * settings.maxBaselineAge < click - captured ∧
        click - captured ≤ 1000 * (settings.maxBaselineAge + 1)))

/-- A baseline was captured not after a click and not longer than the limit before it. -/
def Covers (rt : CoordinatorRuntime) (settings : Settings) (baseline : GhostWalkTransitionBaseline)
    (clickObservedAt : String) : Prop :=
  ∃ captured click, timestamp rt baseline.capturedAt = .ok captured ∧
    timestamp rt clickObservedAt = .ok click ∧ captured ≤ click ∧
    click ≤ captured + 1000 * settings.maxBaselineAge

/-- Of a click that is no near miss, the age in whole milliseconds decides rightly.
SOURCE: macro_transition_coordinator.py:803-815 -/
theorem covers_of_baselineAgeMs (hfl : LawfulDouble rt.fl) {baseline : GhostWalkTransitionBaseline}
    {clickObservedAt : String} {ageMs : ℤ}
    (hage : baselineAgeMs rt baseline clickObservedAt = .ok (some ageMs))
    (hlimit : ageMs ≤ settings.maxBaselineAge)
    (hnear : ¬ NearMiss rt settings baseline clickObservedAt) :
    Covers rt settings baseline clickObservedAt := by
  unfold baselineAgeMs at hage
  obtain ⟨click, hclick, hage⟩ := bind_eq_ok.mp hage
  obtain ⟨captured, hcaptured, hage⟩ := bind_eq_ok.mp hage
  have hmilliseconds : 0 ≤ millisecondsOf rt.fl (click - captured) ∧
      millisecondsOf rt.fl (click - captured) = ageMs := by
    dsimp only at hage
    split at hage
    · cases hage
    · rename_i hnonneg
      have hsome := Option.some.inj (Except.ok.inj hage)
      refine ⟨?_, ?_⟩
      · unfold millisecondsOf
        push_cast at hnonneg ⊢
        omega
      · unfold millisecondsOf
        push_cast at hsome ⊢
        exact hsome
  have hnotBefore : -1000 < click - captured := by
    by_contra hbefore
    have hneg := milliseconds_neg hfl (Int.not_lt.mp hbefore)
    omega
  have hnotAfter : click - captured ≤ 1000 * (settings.maxBaselineAge + 1) := by
    by_contra hafter
    have hbounds := settings.maxBaselineAge_bounds
    have hgt := milliseconds_gt hfl hbounds.1 hbounds.2 (Int.not_le.mp hafter)
    omega
  have hinside : ¬ (click - captured < 0) ∧
      ¬ (1000 * settings.maxBaselineAge < click - captured) := by
    constructor
    · intro hbefore
      exact hnear ⟨captured, click, hcaptured, hclick, .inl ⟨hnotBefore, hbefore⟩⟩
    · intro hafter
      exact hnear ⟨captured, click, hcaptured, hclick, .inr ⟨hafter, hnotAfter⟩⟩
  refine ⟨captured, click, hcaptured, hclick, ?_, ?_⟩
  · omega
  · omega

/-! ## Completed outcomes -/

theorem eq_of_finish {answers : HandleAnswers} {made receipt : TransitionCoordinatorReceipt}
    (h : finish answers made = .ok receipt) : receipt = made := by
  unfold finish at h
  obtain ⟨_, -, h⟩ := bind_eq_ok.mp h
  exact (Except.ok.inj h).symm

/-- What a completed outcome rests on. -/
structure RestsOn (rt : CoordinatorRuntime) (settings : Settings)
    (outcome : GhostWalkListenerOutcome) (receipt : TransitionCoordinatorReceipt)
    (baseline : GhostWalkTransitionBaseline) : Prop where
  named : receipt.baselineSha256 = some (baseline.baselineSha256 rt)
  session : baseline.sessionId = outcome.sessionId
  scope : ∃ clickFrame, outcome.clickFrame = some clickFrame ∧
    sameFrameScope baseline.frame clickFrame = true
  age : ∃ ageMs, baselineAgeMs rt baseline outcome.clickObservedAt = .ok (some ageMs) ∧
    ageMs ≤ settings.maxBaselineAge

/-- The receipt of an outcome that is observed to its end names the baseline. -/
theorem named_of_observeAfter {outcome : GhostWalkListenerOutcome} {answers : HandleAnswers}
    {baseline : GhostWalkTransitionBaseline} {coordinatedAt observation : String} {ageMs : ℤ}
    {receipt : TransitionCoordinatorReceipt}
    (h : observeAfter rt settings outcome answers baseline coordinatedAt observation ageMs =
      .ok receipt) : receipt.baselineSha256 = some (baseline.baselineSha256 rt) := by
  unfold observeAfter at h
  obtain ⟨_, _, h⟩ := ok_past_two h
  obtain ⟨frame, -, h⟩ := bind_eq_ok.mp h
  cases frame with
  | none =>
      rw [eq_of_finish h]
      rfl
  | some frame =>
      obtain ⟨state, -, h⟩ := bind_eq_ok.mp h
      dsimp only at h
      split at h
      · rw [eq_of_finish h]
        rfl
      · obtain ⟨inferredAt, -, h⟩ := bind_eq_ok.mp h
        obtain ⟨inference, -, h⟩ := bind_eq_ok.mp h
        obtain ⟨createdAt, -, h⟩ := bind_eq_ok.mp h
        obtain ⟨note, -, h⟩ := bind_eq_ok.mp h
        rw [eq_of_finish h]
        rfl

/-- A completed outcome took a baseline out of the slot and rests on it.
SOURCE: macro_transition_coordinator.py:586-742 -/
theorem restsOn_of_coordinate {outcome : GhostWalkListenerOutcome} {answers : HandleAnswers}
    {slot : Option GhostWalkTransitionBaseline} {coordinatedAt : String}
    {receipt : TransitionCoordinatorReceipt}
    (h : coordinate rt settings outcome answers slot coordinatedAt = .ok receipt)
    (hstatus : receipt.status = .completed) :
    ∃ baseline, slot = some baseline ∧ RestsOn rt settings outcome receipt baseline := by
  -- every other way through ends in a receipt of another status
  have hother : ∀ made : TransitionCoordinatorReceipt, made.status ≠ .completed →
      finish answers made ≠ .ok receipt := by
    intro made hmade hfinish
    rw [eq_of_finish hfinish] at hstatus
    exact hmade hstatus
  unfold coordinate at h
  dsimp only at h
  split at h
  · exact absurd h (hother _ (by intro hc; cases hc))
  · split at h
    · exact absurd h (hother _ (by intro hc; cases hc))
    · rename_i observation _
      split at h
      · exact absurd h (hother _ (by intro hc; cases hc))
      · exact absurd h (hother _ (by intro hc; cases hc))
      · rename_i clickFrame baseline hframe
        split at h
        · exact absurd h (hother _ (by intro hc; cases hc))
        · rename_i hsession
          obtain ⟨age, hage, h⟩ := bind_eq_ok.mp h
          cases age with
          | none => exact absurd h (hother _ (by intro hc; cases hc))
          | some ageMs =>
              dsimp only at h
              split at h
              · exact absurd h (hother _ (by intro hc; cases hc))
              · rename_i hlimit
                split at h
                · exact absurd h (hother _ (by intro hc; cases hc))
                · rename_i hscope
                  refine ⟨baseline, rfl, named_of_observeAfter h, ?_, ?_, ?_⟩
                  · exact Decidable.not_not.mp hsession
                  · exact ⟨clickFrame, hframe, by simpa using hscope⟩
                  · exact ⟨ageMs, hage, Int.not_lt.mp hlimit⟩

/-! ## Runs -/

/-- A call to the coordinator. -/
inductive CoordinatorCall
  | refresh (sessionId : String) (answers : RefreshAnswers)
  | clear
  | handle (outcome : GhostWalkListenerOutcome) (answers : HandleAnswers)

/-- What a call returns or raises. -/
inductive CoordinatorReply
  | refreshed (result : Except PyError (Option GhostWalkTransitionBaseline))
  | cleared
  | handled (result : Except PyError TransitionCoordinatorReceipt)

/-- What a call returns, and the slot that it leaves. -/
def CoordinatorCall.run (rt : CoordinatorRuntime) (settings : Settings)
    (slot : Option GhostWalkTransitionBaseline) :
    CoordinatorCall → CoordinatorReply × Option GhostWalkTransitionBaseline
  | refresh sessionId answers =>
      (.refreshed (refreshBaseline rt settings slot sessionId answers).1,
        (refreshBaseline rt settings slot sessionId answers).2)
  | clear => (.cleared, none)
  | handle outcome answers =>
      (.handled (handleListenerOutcome rt settings slot outcome answers).1,
        (handleListenerOutcome rt settings slot outcome answers).2)

/-- A call of a run, with the slot it finds and what it returns. -/
structure RunEntry where
  call : CoordinatorCall
  slot : Option GhostWalkTransitionBaseline
  reply : CoordinatorReply

/-- The runs of a coordinator: the calls so far, and the slot. `ok` says which calls are made on
which slots. -/
inductive CoordinatorRun (rt : CoordinatorRuntime) (settings : Settings)
    (ok : Option GhostWalkTransitionBaseline → CoordinatorCall → Prop) :
    List RunEntry → Option GhostWalkTransitionBaseline → Prop
  | start : CoordinatorRun rt settings ok [] none
  | call {entries : List RunEntry} {slot : Option GhostWalkTransitionBaseline}
      (h : CoordinatorRun rt settings ok entries slot) (call : CoordinatorCall)
      (hok : ok slot call) :
      CoordinatorRun rt settings ok (entries ++ [⟨call, slot, (call.run rt settings slot).1⟩])
        (call.run rt settings slot).2

/-- A refresh that succeeds and fills the slot. -/
def RunEntry.Fills (entry : RunEntry) (baseline : GhostWalkTransitionBaseline) : Prop :=
  entry.reply = .refreshed (.ok (some baseline))

/-- An outcome is handled: the call has read the clock and taken what is in the slot. -/
def RunEntry.Handles (rt : CoordinatorRuntime) (entry : RunEntry)
    (outcome : GhostWalkListenerOutcome) : Prop :=
  ∃ answers coordinatedAt, entry.call = .handle outcome answers ∧
    readClock rt answers.clock "coordinated_at" = .ok coordinatedAt

/-- A call that raises before it touches the slot. -/
def RunEntry.Idle (rt : CoordinatorRuntime) (entry : RunEntry) : Prop :=
  (∃ e, entry.reply = .refreshed (.error e)) ∨
    ∃ outcome answers e, entry.call = .handle outcome answers ∧
      readClock rt answers.clock "coordinated_at" = .error e

/-- Of the calls before the `i`-th, the `j`-th is the latest refresh that succeeded, and since then
no outcome was handled and the slot was not emptied. -/
structure LatestRefresh (rt : CoordinatorRuntime) (entries : List RunEntry) (i j : ℕ)
    (baseline : GhostWalkTransitionBaseline) : Prop where
  before : j < i
  fills : ∃ entry, entries[j]? = some entry ∧ entry.Fills baseline
  idle : ∀ k entry, j < k → k < i → entries[k]? = some entry → entry.Idle rt

/-- An outcome handled at the `i`-th call takes the baseline of the `j`-th. -/
def Uses (rt : CoordinatorRuntime) (entries : List RunEntry) (i j : ℕ) : Prop :=
  ∃ entry outcome baseline, entries[i]? = some entry ∧ entry.Handles rt outcome ∧
    entry.slot = some baseline ∧ LatestRefresh rt entries i j baseline

variable {ok : Option GhostWalkTransitionBaseline → CoordinatorCall → Prop}
  {entries : List RunEntry} {slot : Option GhostWalkTransitionBaseline}

/-- What a call does to the slot: it fills it with what it returns, leaves it alone, or
empties it. -/
theorem CoordinatorCall.run_slot (call : CoordinatorCall)
    {baseline : GhostWalkTransitionBaseline} (h : (call.run rt settings slot).2 = some baseline) :
    RunEntry.Fills ⟨call, slot, (call.run rt settings slot).1⟩ baseline ∨
      (slot = some baseline ∧ RunEntry.Idle rt ⟨call, slot, (call.run rt settings slot).1⟩) := by
  cases call with
  | refresh sessionId answers =>
      change (refreshBaseline rt settings slot sessionId answers).2 = some baseline at h
      cases hcaptured : capturedBaseline rt settings sessionId answers with
      | ok captured =>
          have hrefresh : refreshBaseline rt settings slot sessionId answers =
              (.ok captured, captured) := by
            unfold refreshBaseline
            rw [hcaptured]
          rw [hrefresh] at h
          left
          show CoordinatorReply.refreshed (refreshBaseline rt settings slot sessionId answers).1 = _
          rw [hrefresh, show captured = some baseline from h]
      | error e =>
          have hrefresh : refreshBaseline rt settings slot sessionId answers = (.error e, slot) := by
            unfold refreshBaseline
            rw [hcaptured]
          rw [hrefresh] at h
          refine .inr ⟨h, .inl ⟨e, ?_⟩⟩
          show CoordinatorReply.refreshed (refreshBaseline rt settings slot sessionId answers).1 = _
          rw [hrefresh]
  | clear => cases h
  | handle outcome answers =>
      change (handleListenerOutcome rt settings slot outcome answers).2 = some baseline at h
      unfold handleListenerOutcome at h
      cases hclock : readClock rt answers.clock "coordinated_at" with
      | ok coordinatedAt =>
          rw [hclock] at h
          cases h
      | error e =>
          rw [hclock] at h
          exact .inr ⟨h, .inr ⟨outcome, answers, e, rfl, hclock⟩⟩

/-- What is in the slot is the baseline of the latest refresh. -/
theorem CoordinatorRun.latest (h : CoordinatorRun rt settings ok entries slot)
    {baseline : GhostWalkTransitionBaseline} (hslot : slot = some baseline) :
    ∃ j, LatestRefresh rt entries entries.length j baseline := by
  induction h generalizing baseline with
  | start => cases hslot
  | @call entries slot hrun call hok ih =>
      rcases call.run_slot hslot with hfills | ⟨hsame, hidle⟩
      · refine ⟨entries.length, by simp, ⟨_, List.getElem?_concat_length, hfills⟩, ?_⟩
        intro k entry hlow hhigh
        simp only [List.length_append, List.length_singleton] at hhigh
        omega
      · obtain ⟨j, hlatest⟩ := ih hsame
        have hbefore := hlatest.before
        refine ⟨j, by simp; omega, ?_, ?_⟩
        · obtain ⟨entry, hentry, hfills⟩ := hlatest.fills
          refine ⟨entry, ?_, hfills⟩
          rw [List.getElem?_append_left hbefore]
          exact hentry
        · intro k entry hlow hhigh hentry
          by_cases hk : k < entries.length
          · rw [List.getElem?_append_left hk] at hentry
            exact hlatest.idle k entry hlow hk hentry
          · have hlast : k = entries.length := by
              simp only [List.length_append, List.length_singleton] at hhigh
              omega
            rw [hlast, List.getElem?_concat_length] at hentry
            rw [← Option.some.inj hentry]
            exact hidle

theorem LatestRefresh.append {i j : ℕ} {baseline : GhostWalkTransitionBaseline}
    (h : LatestRefresh rt entries i j baseline) (hi : i ≤ entries.length) (entry : RunEntry) :
    LatestRefresh rt (entries ++ [entry]) i j baseline where
  before := h.before
  fills := by
    obtain ⟨filler, hfiller, hfills⟩ := h.fills
    have hj : j < entries.length := by
      have hbefore := h.before
      omega
    exact ⟨filler, by rw [List.getElem?_append_left hj]; exact hfiller, hfills⟩
  idle := by
    intro k between hlow hhigh hk
    have hbound : k < entries.length := by omega
    rw [List.getElem?_append_left hbound] at hk
    exact h.idle k between hlow hhigh hk

/-- What is known of each call of a run: it was made on the slot that it found, and what it
found was captured by the latest refresh. -/
theorem CoordinatorRun.entry (h : CoordinatorRun rt settings ok entries slot) {i : ℕ}
    {entry : RunEntry} (hi : entries[i]? = some entry) :
    entry.reply = (entry.call.run rt settings entry.slot).1 ∧ ok entry.slot entry.call ∧
      ∀ baseline, entry.slot = some baseline → ∃ j, LatestRefresh rt entries i j baseline := by
  induction h generalizing i entry with
  | start => cases hi
  | @call entries slot hrun call hok ih =>
      have hbound : i < entries.length + 1 := by
        have hlt := (List.getElem?_eq_some_iff.mp hi).1
        simpa using hlt
      by_cases hlast : i < entries.length
      · rw [List.getElem?_append_left hlast] at hi
        obtain ⟨hreply, hcall, hlatest⟩ := ih hi
        refine ⟨hreply, hcall, ?_⟩
        intro baseline hslot
        obtain ⟨j, hj⟩ := hlatest baseline hslot
        exact ⟨j, hj.append (by omega) _⟩
      · have hend : i = entries.length := by omega
        rw [hend, List.getElem?_concat_length] at hi
        rw [← Option.some.inj hi, hend]
        refine ⟨rfl, hok, ?_⟩
        intro baseline hslot
        obtain ⟨j, hj⟩ := hrun.latest hslot
        exact ⟨j, hj.append (le_refl _) _⟩

theorem not_idle_of_handles {entry : RunEntry} {outcome : GhostWalkListenerOutcome}
    (hreply : entry.reply = (entry.call.run rt settings entry.slot).1)
    (h : entry.Handles rt outcome) : ¬ entry.Idle rt := by
  obtain ⟨answers, coordinatedAt, hcall, hclock⟩ := h
  rintro (⟨e, hrefreshed⟩ | ⟨outcome', answers', e, hcall', hraises⟩)
  · rw [hcall] at hreply
    rw [hreply] at hrefreshed
    cases hrefreshed
  · have hsame := CoordinatorCall.handle.inj (hcall.symm.trans hcall')
    rw [← hsame.2, hclock] at hraises
    cases hraises

theorem CoordinatorRun.uses_unique (h : CoordinatorRun rt settings ok entries slot) {i i' j : ℕ}
    (hi : Uses rt entries i j) (hi' : Uses rt entries i' j) : ¬ i < i' := by
  intro hlt
  obtain ⟨entry, outcome, baseline, hentry, hhandles, -, hlatest⟩ := hi
  obtain ⟨entry', outcome', baseline', -, -, -, hlatest'⟩ := hi'
  have hidle := hlatest'.idle i entry hlatest.before hlt hentry
  exact not_idle_of_handles (h.entry hentry).1 hhandles hidle

/-- No handled click is a near miss of the baseline it finds. -/
def ClearOfNearMisses (rt : CoordinatorRuntime) (settings : Settings)
    (slot : Option GhostWalkTransitionBaseline) (call : CoordinatorCall) : Prop :=
  ∀ baseline outcome answers, slot = some baseline → call = .handle outcome answers →
    ¬ NearMiss rt settings baseline outcome.clickObservedAt

theorem coordinate_of_handled {outcome : GhostWalkListenerOutcome} {answers : HandleAnswers}
    {receipt : TransitionCoordinatorReceipt}
    (h : (handleListenerOutcome rt settings slot outcome answers).1 = .ok receipt) :
    ∃ coordinatedAt, readClock rt answers.clock "coordinated_at" = .ok coordinatedAt ∧
      coordinate rt settings outcome answers slot coordinatedAt = .ok receipt := by
  unfold handleListenerOutcome at h
  cases hclock : readClock rt answers.clock "coordinated_at" with
  | ok coordinatedAt =>
      rw [hclock] at h
      exact ⟨coordinatedAt, rfl, h⟩
  | error e =>
      rw [hclock] at h
      cases h

/-- MAIN: **What a completed outcome compares with.** In every run, whatever the clock, the frames
and the observer answer: what an outcome takes is the baseline of the latest refresh that succeeded
since the outcome before it, and no baseline is taken twice, however the first outcome ended. Where
no handled click is a near miss, the baseline of a completed outcome is of its session and frame
scope, captured not after the click and not longer than the limit before it. -/
theorem completed_uses_fresh_baseline (rt : CoordinatorRuntime) (settings : Settings)
    (hfl : LawfulDouble rt.fl) :
    (∀ entries slot, CoordinatorRun rt settings (fun _ _ => True) entries slot →
      (∀ i entry outcome baseline, entries[i]? = some entry → entry.Handles rt outcome →
        entry.slot = some baseline → ∃ j, LatestRefresh rt entries i j baseline) ∧
      ∀ i i' j, Uses rt entries i j → Uses rt entries i' j → i = i') ∧
    ∀ entries slot, CoordinatorRun rt settings (ClearOfNearMisses rt settings) entries slot →
      ∀ i entry outcome answers receipt, entries[i]? = some entry →
        entry.call = .handle outcome answers → entry.reply = .handled (.ok receipt) →
        receipt.status = .completed →
        ∃ baseline j, entry.slot = some baseline ∧ Uses rt entries i j ∧
          LatestRefresh rt entries i j baseline ∧
          receipt.baselineSha256 = some (baseline.baselineSha256 rt) ∧
          baseline.sessionId = outcome.sessionId ∧
          (∃ clickFrame, outcome.clickFrame = some clickFrame ∧
            sameFrameScope baseline.frame clickFrame = true) ∧
          Covers rt settings baseline outcome.clickObservedAt := by
  constructor
  · intro entries slot hrun
    constructor
    · intro i entry outcome baseline hentry _ hslot
      exact (hrun.entry hentry).2.2 baseline hslot
    · intro i i' j hi hi'
      have hforward := hrun.uses_unique hi hi'
      have hbackward := hrun.uses_unique hi' hi
      omega
  · intro entries slot hrun i entry outcome answers receipt hentry hcall hreply hstatus
    obtain ⟨hmade, hclear, hlatest⟩ := hrun.entry hentry
    rw [hreply, hcall] at hmade
    have hresult := (CoordinatorReply.handled.inj hmade).symm
    obtain ⟨coordinatedAt, hclock, hcoordinate⟩ := coordinate_of_handled hresult
    obtain ⟨baseline, hslot, hrests⟩ := restsOn_of_coordinate hcoordinate hstatus
    obtain ⟨j, hj⟩ := hlatest baseline hslot
    obtain ⟨ageMs, hage, hlimit⟩ := hrests.age
    have hnear := hclear baseline outcome answers hslot hcall
    refine ⟨baseline, j, hslot, ?_, hj, hrests.named, hrests.session, hrests.scope,
      covers_of_baselineAgeMs hfl hage hlimit hnear⟩
    exact ⟨entry, outcome, baseline, hentry, ⟨answers, coordinatedAt, hcall, hclock⟩, hslot, hj⟩

/-! ## A click before its baseline -/

/-- A digest. -/
def sampleDigest : String := String.ofList (List.replicate 64 'a')

/-- A runtime that reads two timestamps, half a millisecond apart. -/
def sampleRuntime : CoordinatorRuntime where
  sha256 := fun _ => sampleDigest
  iso := {
    fromisoformat := fun text =>
      if text = "2026-01-01T00:00:01+00:00" then some (.aware 1000000)
      else if text = "2026-01-01T00:00:01.000500+00:00" then some (.aware 1000500)
      else none
    isoformat := fun _ => "" }
  fl := id

theorem lawful_id : LawfulDouble id where
  mono := fun h => h
  exact_int := fun _ _ => rfl
  close := by
    intro x hlow _
    show x * (1 - 1 / 2 ^ 53) ≤ x
    nlinarith
  thousandth := by norm_num

def sampleSettings : Settings where
  coordinatorId := "coordinator"
  operatorAuthorId := "operator"
  maxBaselineAge := 1500
  postActionDelayMs := 75
  maxBaselineAge_bounds := by decide

def sampleFrame : WindowFrame where
  processId := "process"
  windowTitleSha256 := sampleDigest
  leftPx := 0
  topPx := 0
  widthPx := 1
  heightPx := 1
  displayScalePercent := 100
  foreground := true
  capturedAt := "2026-01-01T00:00:01+00:00"

/-- A state that the observer sees. -/
def sampleState (phase : SnapshotPhase) (observedAt : String) : UiaStateObservationOutcome where
  receiptSha256 := sampleDigest
  snapshot := some {
    sessionId := "session"
    actionObservationSha256 := sampleDigest
    phase
    processId := "process"
    windowTitleSha256 := sampleDigest
    frameSha256 := sampleDigest
    semanticTargets := []
    observedAt }

/-- A refresh at a time. -/
def sampleRefresh (capturedAt : String) : CoordinatorCall :=
  .refresh "session" {
    clock := .ok capturedAt
    frame := .ok (some sampleFrame)
    state := .ok (sampleState .before capturedAt) }

/-- A click at a time. -/
def sampleClick (clickObservedAt : String) : GhostWalkListenerOutcome where
  sessionId := "session"
  receiptSha256 := sampleDigest
  injected := false
  captureStatus := .recorded
  clickObservedAt
  pointerEventSha256 := sampleDigest
  observation := some sampleDigest
  clickFrame := some sampleFrame

/-- Answers with which an outcome is coordinated to its end. -/
def sampleAnswers : HandleAnswers where
  clock := .ok "2026-01-01T00:00:01+00:00"
  afterClock := .ok "2026-01-01T00:00:01+00:00"
  afterFrame := .ok (some sampleFrame)
  afterState := .ok (sampleState .after "2026-01-01T00:00:01+00:00")
  inferredClock := .ok "2026-01-01T00:00:01+00:00"
  inference := fun _ _ _ => .ok sampleDigest
  noteClock := .ok "2026-01-01T00:00:01+00:00"
  note := fun _ _ _ => .ok sampleDigest
  append := fun _ => .ok ()

/-- The slot after a refresh at a time. -/
def sampleSlot (capturedAt : String) : Option GhostWalkTransitionBaseline :=
  ((sampleRefresh capturedAt).run sampleRuntime sampleSettings none).2

/-- What evaluation finds of a click half a millisecond behind its baseline and of one half a
millisecond before it: both are completed. -/
theorem sampleClicks_run :
    ((sampleSlot "2026-01-01T00:00:01+00:00").map (·.capturedAt) =
        some "2026-01-01T00:00:01+00:00" ∧
      ((handleListenerOutcome sampleRuntime sampleSettings (sampleSlot "2026-01-01T00:00:01+00:00")
        (sampleClick "2026-01-01T00:00:01.000500+00:00") sampleAnswers).1.toOption.map (·.status)) =
          some .completed) ∧
    ((sampleSlot "2026-01-01T00:00:01.000500+00:00").map (·.capturedAt) =
        some "2026-01-01T00:00:01.000500+00:00" ∧
      ((handleListenerOutcome sampleRuntime sampleSettings
        (sampleSlot "2026-01-01T00:00:01.000500+00:00")
        (sampleClick "2026-01-01T00:00:01+00:00") sampleAnswers).1.toOption.map (·.status)) =
          some .completed) := by
  decide +kernel

theorem sampleTimes_read :
    timestamp sampleRuntime "2026-01-01T00:00:01+00:00" = .ok 1000000 ∧
      timestamp sampleRuntime "2026-01-01T00:00:01.000500+00:00" = .ok 1000500 := by
  decide +kernel

theorem sampleRun (ok : Option GhostWalkTransitionBaseline → CoordinatorCall → Prop)
    (capturedAt clickObservedAt : String)
    (hrefresh : ok none (sampleRefresh capturedAt))
    (hclick : ok (sampleSlot capturedAt) (.handle (sampleClick clickObservedAt) sampleAnswers)) :
    ∃ entries slot, CoordinatorRun sampleRuntime sampleSettings ok entries slot ∧
      entries[1]? = some ⟨.handle (sampleClick clickObservedAt) sampleAnswers,
        sampleSlot capturedAt, .handled (handleListenerOutcome sampleRuntime sampleSettings
          (sampleSlot capturedAt) (sampleClick clickObservedAt) sampleAnswers).1⟩ := by
  have hstart : CoordinatorRun sampleRuntime sampleSettings ok [] none := .start
  have hfirst := hstart.call (sampleRefresh capturedAt) hrefresh
  exact ⟨_, _, hfirst.call (.handle (sampleClick clickObservedAt) sampleAnswers) hclick, rfl⟩

/-- What a refresh and a click come to, of which evaluation finds the baseline's time and
the receipt's status. -/
theorem sampleEntry {capturedAt clickObservedAt : String}
    (hcaptured : (sampleSlot capturedAt).map (·.capturedAt) = some capturedAt)
    (hcompleted : (handleListenerOutcome sampleRuntime sampleSettings (sampleSlot capturedAt)
      (sampleClick clickObservedAt) sampleAnswers).1.toOption.map (·.status) = some .completed) :
    ∃ baseline receipt, sampleSlot capturedAt = some baseline ∧ baseline.capturedAt = capturedAt ∧
      (handleListenerOutcome sampleRuntime sampleSettings (sampleSlot capturedAt)
        (sampleClick clickObservedAt) sampleAnswers).1 = .ok receipt ∧
      receipt.status = .completed := by
  obtain ⟨baseline, hslot, hbaseline⟩ := Option.map_eq_some_iff.mp hcaptured
  cases hresult : (handleListenerOutcome sampleRuntime sampleSettings (sampleSlot capturedAt)
      (sampleClick clickObservedAt) sampleAnswers).1 with
  | error e =>
      rw [hresult] at hcompleted
      cases hcompleted
  | ok receipt =>
      rw [hresult] at hcompleted
      exact ⟨baseline, receipt, hslot, hbaseline, rfl, Option.some.inj hcompleted⟩

/-- WITNESS: A click half a millisecond behind its baseline is completed with that baseline. -/
theorem click_behind_baseline_completed :
    ∃ entries slot baseline j, CoordinatorRun sampleRuntime sampleSettings
        (ClearOfNearMisses sampleRuntime sampleSettings) entries slot ∧
      LatestRefresh sampleRuntime entries 1 j baseline ∧
      Covers sampleRuntime sampleSettings baseline "2026-01-01T00:00:01.000500+00:00" := by
  obtain ⟨⟨hcaptured, hcompleted⟩, -⟩ := sampleClicks_run
  obtain ⟨baseline, receipt, hslot, hbaseline, hresult, hstatus⟩ :=
    sampleEntry hcaptured hcompleted
  have hrefresh : ClearOfNearMisses sampleRuntime sampleSettings none
      (sampleRefresh "2026-01-01T00:00:01+00:00") := by
    intro baseline outcome answers hnone
    cases hnone
  have hclick : ClearOfNearMisses sampleRuntime sampleSettings
      (sampleSlot "2026-01-01T00:00:01+00:00")
      (.handle (sampleClick "2026-01-01T00:00:01.000500+00:00") sampleAnswers) := by
    intro baseline' outcome answers hslot' hcall
    have hsame : baseline = baseline' := Option.some.inj (hslot.symm.trans hslot')
    rw [← (CoordinatorCall.handle.inj hcall).1, ← hsame]
    rintro ⟨captured, click, hcapturedAt, hclickAt, hnear⟩
    rw [hbaseline, sampleTimes_read.1] at hcapturedAt
    have hclickAt' := sampleTimes_read.2.symm.trans hclickAt
    have hfrom := Except.ok.inj hcapturedAt
    have hto := Except.ok.inj hclickAt'
    have hlimit : sampleSettings.maxBaselineAge = 1500 := rfl
    omega
  obtain ⟨entries, slot, hrun, hentry⟩ := sampleRun _ _ _ hrefresh hclick
  rw [hresult] at hentry
  obtain ⟨baseline', j, -, -, hlatest, -, -, -, hcovers⟩ :=
    (completed_uses_fresh_baseline sampleRuntime sampleSettings lawful_id).2 entries slot hrun 1 _
      _ _ receipt hentry rfl rfl hstatus
  exact ⟨entries, slot, baseline', j, hrun, hlatest, hcovers⟩

/-- COUNTEREXAMPLE: A click half a millisecond before its baseline was captured is completed with
that baseline. -/
theorem click_before_baseline_completed :
    LawfulDouble sampleRuntime.fl ∧
    ∃ entries slot receipt baseline, CoordinatorRun sampleRuntime sampleSettings
        (fun _ _ => True) entries slot ∧
      entries[1]? = some ⟨.handle (sampleClick "2026-01-01T00:00:01+00:00") sampleAnswers,
        some baseline, .handled (.ok receipt)⟩ ∧
      receipt.status = .completed ∧
      ¬ Covers sampleRuntime sampleSettings baseline "2026-01-01T00:00:01+00:00" := by
  obtain ⟨-, hcaptured, hcompleted⟩ := sampleClicks_run
  obtain ⟨baseline, receipt, hslot, hbaseline, hresult, hstatus⟩ :=
    sampleEntry hcaptured hcompleted
  obtain ⟨entries, slot, hrun, hentry⟩ := sampleRun (fun _ _ => True)
    "2026-01-01T00:00:01.000500+00:00" "2026-01-01T00:00:01+00:00" trivial trivial
  rw [hresult, hslot] at hentry
  refine ⟨lawful_id, entries, slot, receipt, baseline, hrun, hentry, hstatus, ?_⟩
  rintro ⟨captured, click, hcapturedAt, hclickAt, hle, -⟩
  rw [hbaseline, sampleTimes_read.2] at hcapturedAt
  have hclickAt' := sampleTimes_read.1.symm.trans hclickAt
  have hfrom := Except.ok.inj hcapturedAt
  have hto := Except.ok.inj hclickAt'
  omega

end TransitionCoordinator

end PhiOS
