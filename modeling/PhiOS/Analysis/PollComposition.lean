import PhiOS.Analysis.PollSeams

/-!
# What polls emit

The triggers of polls over two windows are those of one poll over both, and a schedule that emits the
latest occurrence only emits the last of those that are due.
-/

set_option autoImplicit false

namespace PhiOS

open Calendar

namespace WallClockSchedule

variable {rt : ScheduleRuntime} {schedule : WallClockSchedule} {zone : ZoneInfo}
  {wallTime start : ℤ} {ends : Option ℤ}

/-! ## Triggers -/

theorem occurrence_of_trigger {occurrence : ScheduleOccurrence} {trigger : ScheduledTrigger}
    (h : schedule.trigger rt occurrence = .ok trigger) : trigger.occurrence = occurrence := by
  obtain ⟨payloadSha256, -, h⟩ := bind_eq_ok.mp h
  obtain ⟨scheduleSha256, -, h⟩ := bind_eq_ok.mp h
  obtain ⟨-, -, h⟩ := bind_eq_ok.mp h
  obtain rfl := by simpa [pure, Except.pure] using h
  rfl

theorem occurrences_of_triggers {occurrences : List ScheduleOccurrence}
    {triggers : List ScheduledTrigger}
    (h : occurrences.mapM (schedule.trigger rt) = .ok triggers) :
    triggers.map (·.occurrence) = occurrences := by
  induction occurrences generalizing triggers with
  | nil =>
      obtain rfl : [] = triggers := by simpa [pure, Except.pure] using h
      rfl
  | cons occurrence occurrences ih =>
      rw [List.mapM_cons] at h
      obtain ⟨trigger, htrigger, h⟩ := bind_eq_ok.mp h
      obtain ⟨rest, hrest, h⟩ := bind_eq_ok.mp h
      obtain rfl : trigger :: rest = triggers := by simpa [pure, Except.pure] using h
      rw [List.map_cons, occurrence_of_trigger htrigger, ih hrest]

/-- What a poll that returns has found and emitted. -/
theorem poll_eq_ok {after through : ℤ} {result : SchedulePollResult}
    (h : schedule.poll rt (.aware after) (.aware through) = .ok result) :
    ∃ occurrences, schedule.dueOccurrences rt after through = .ok occurrences ∧
      (schedule.selected occurrences).mapM (schedule.trigger rt) = .ok result.triggers ∧
      result.candidateCount = occurrences.length := by
  obtain ⟨after', hafter, h⟩ := bind_eq_ok.mp h
  obtain ⟨through', hthrough, h⟩ := bind_eq_ok.mp h
  obtain ⟨_, _, h⟩ := ok_past_two h
  obtain ⟨occurrences, hoccurrences, h⟩ := bind_eq_ok.mp h
  obtain ⟨-, -, h⟩ := bind_eq_ok.mp h
  obtain ⟨triggers, htriggers, h⟩ := bind_eq_ok.mp h
  obtain ⟨scheduleSha256, -, h⟩ := bind_eq_ok.mp h
  obtain rfl := by simpa [pure, Except.pure] using h
  obtain ⟨rfl, -, -⟩ := datetime_eq_ok.mp hafter
  obtain ⟨rfl, -, -⟩ := datetime_eq_ok.mp hthrough
  exact ⟨occurrences, hoccurrences, htriggers, rfl⟩

theorem triggers_append {first rest : List ScheduleOccurrence}
    {triggers triggers₁ triggers₂ : List ScheduledTrigger}
    (h : (first ++ rest).mapM (schedule.trigger rt) = .ok triggers)
    (h₁ : first.mapM (schedule.trigger rt) = .ok triggers₁)
    (h₂ : rest.mapM (schedule.trigger rt) = .ok triggers₂) : triggers = triggers₁ ++ triggers₂ := by
  rw [List.mapM_append, h₁, h₂] at h
  simpa [bind, Except.bind, pure, Except.pure] using h.symm

/-- Where every occurrence is emitted, the triggers of a window are those of its first
part, then those of its second part. -/
theorem triggers_compose (hreads : schedule.ReadsAs rt zone wallTime start ends)
    (hsteady : zone.Steady) {after seam through : ℤ} (hafter : after ≤ seam)
    (hthrough : seam ≤ through) {whole first rest : SchedulePollResult}
    (hpolicy : schedule.misfirePolicy = .catchUp)
    (hwhole : schedule.poll rt (.aware after) (.aware through) = .ok whole)
    (hfirst : schedule.poll rt (.aware after) (.aware seam) = .ok first)
    (hrest : schedule.poll rt (.aware seam) (.aware through) = .ok rest) :
    whole.triggers = first.triggers ++ rest.triggers := by
  have hselected : ∀ occurrences, schedule.selected occurrences = occurrences := by
    intro occurrences
    rw [selected, hpolicy]
  obtain ⟨occurrences, hdue, htriggers, -⟩ := poll_eq_ok hwhole
  obtain ⟨occurrences₁, hdue₁, htriggers₁, -⟩ := poll_eq_ok hfirst
  obtain ⟨occurrences₂, hdue₂, htriggers₂, -⟩ := poll_eq_ok hrest
  have happend := dueOccurrences_append hreads hsteady hafter hthrough hdue hdue₁ hdue₂
  rw [hselected] at htriggers htriggers₁ htriggers₂
  rw [happend] at htriggers
  exact triggers_append htriggers htriggers₁ htriggers₂

/-! ## The latest occurrence -/

variable (schedule zone wallTime) in
/-- The text of the instant that a date resolves to. -/
def dueText (day : ℤ) : String :=
  match resolveLocal (day * dayMicros + wallTime) zone schedule.ambiguousTimePolicy with
  | .ok (some resolved) => utcIso resolved.utc
  | _ => ""

theorem dueTexts {due : List (ℤ × ScheduleOccurrence)} {after through : ℤ}
    (hmem : ∀ p, p ∈ due ↔ schedule.DueOn rt zone wallTime after through p.1 p.2) :
    due.map (·.2.dueAtUtc) = (due.map (·.1)).map (schedule.dueText zone wallTime) := by
  rw [List.map_map]
  apply List.map_congr_left
  intro p hp
  obtain ⟨resolved, hon, -, -, hocc⟩ := (hmem p).mp hp
  rw [dueAtUtc_of_occurrence hocc, Function.comp_apply, dueText, hon.resolves]

theorem mem_dueDates {due : List (ℤ × ScheduleOccurrence)} {after through : ℤ}
    (hbuilds : schedule.Builds rt zone wallTime after through)
    (hmem : ∀ p, p ∈ due ↔ schedule.DueOn rt zone wallTime after through p.1 p.2) (day : ℤ) :
    day ∈ due.map (·.1) ↔ ∃ resolved, schedule.ResolvesOn rt zone wallTime day resolved ∧
      after < resolved.utc ∧ resolved.utc ≤ through := by
  constructor
  · intro hday
    obtain ⟨p, hp, rfl⟩ := List.mem_map.mp hday
    obtain ⟨resolved, hon, hafter, hthrough, -⟩ := (hmem p).mp hp
    exact ⟨resolved, hon, hafter, hthrough⟩
  · rintro ⟨resolved, hon, hafter, hthrough⟩
    obtain ⟨occurrence, hocc⟩ := hbuilds day resolved hon hafter hthrough
    exact List.mem_map.mpr
      ⟨(day, occurrence), (hmem _).mpr ⟨resolved, hon, hafter, hthrough, hocc⟩, rfl⟩

theorem dueTexts_sorted {due : List (ℤ × ScheduleOccurrence)} (h : due.Pairwise DueBefore) :
    (due.map (·.2.dueAtUtc)).Pairwise (· ≤ ·) := by
  rw [List.pairwise_map]
  apply h.imp
  rintro p q ⟨hlt | ⟨heq, -⟩, -⟩
  · exact hlt.le
  · exact heq.le

/-- Schedules that differ in what they do after a misfire have the same due times. -/
theorem dueTimes_eq_of_policy (hreads : schedule.ReadsAs rt zone wallTime start ends)
    (hsteady : zone.Steady) {after through : ℤ} {policy : MisfirePolicy}
    {occurrences occurrences' : List ScheduleOccurrence}
    (h : schedule.dueOccurrences rt after through = .ok occurrences)
    (h' : { schedule with misfirePolicy := policy }.dueOccurrences rt after through =
      .ok occurrences') : occurrences'.map (·.dueAtUtc) = occurrences.map (·.dueAtUtc) := by
  have hreads' : ReadsAs rt { schedule with misfirePolicy := policy } zone wallTime start ends :=
    ⟨hreads.zone, hreads.wallTime, hreads.start, hreads.ends⟩
  have hbuilds := builds_of_dueOccurrences hreads hsteady h
  have hbuilds' := builds_of_dueOccurrences hreads' hsteady h'
  obtain ⟨due, rfl, hsorted, hmem⟩ := dueOccurrences_eq_ok hreads hsteady h
  obtain ⟨due', rfl, hsorted', hmem'⟩ := dueOccurrences_eq_ok hreads' hsteady h'
  have hperm : (due'.map (·.1)).Perm (due.map (·.1)) := by
    rw [List.perm_ext_iff_of_nodup (dueDates_nodup hsorted' hmem') (dueDates_nodup hsorted hmem)]
    intro day
    rw [mem_dueDates hbuilds hmem, mem_dueDates hbuilds' hmem']
    -- what a date resolves to does not depend on the policy
    exact exists_congr fun resolved => and_congr_left fun _ =>
      ⟨fun hon => ⟨hon.dateMatches, hon.resolves⟩, fun hon => ⟨hon.dateMatches, hon.resolves⟩⟩
  have htexts : (due'.map (·.2.dueAtUtc)).Perm (due.map (·.2.dueAtUtc)) := by
    rw [dueTexts hmem, dueTexts hmem']
    exact hperm.map _
  have heq := htexts.eq_of_pairwise (fun a b _ _ => le_antisymm) (dueTexts_sorted hsorted')
    (dueTexts_sorted hsorted)
  simpa [List.map_map, Function.comp_def] using heq

/-! ## Composition -/

/-- MAIN: **Poll windows compose in zones whose offsets are whole seconds and that never fall back by
more than a day.** A poll finds what polls over the two parts of its window find, one after the other,
and these polls find it wherever the window is four days inside of the calendar. Each date has one
occurrence at most, and the due times increase if different dates have different due times. Catching
up emits all of it; the latest occurrence is the last one, at the due time of the last that catching
up would emit.
SOURCE: macro_schedule.py:376-477 -/
theorem poll_windows_compose (hreads : schedule.ReadsAs rt zone wallTime start ends)
    (hsteady : zone.Steady) {after seam through : ℤ} (hafter : after ≤ seam)
    (hthrough : seam ≤ through) {whole : SchedulePollResult}
    (hwhole : schedule.poll rt (.aware after) (.aware through) = .ok whole) :
    ∃ due : List (ℤ × ScheduleOccurrence),
      schedule.dueOccurrences rt after through = .ok (due.map (·.2)) ∧
      whole.candidateCount = due.length ∧
      (∀ first rest, schedule.dueOccurrences rt after seam = .ok first →
        schedule.dueOccurrences rt seam through = .ok rest → due.map (·.2) = first ++ rest) ∧
      (4 ≤ dayOf after → dayOf through ≤ maxDay - 4 →
        (∃ first, schedule.dueOccurrences rt after seam = .ok first) ∧
          ∃ rest, schedule.dueOccurrences rt seam through = .ok rest) ∧
      (∀ p, p ∈ due ↔ schedule.DueOn rt zone wallTime after through p.1 p.2) ∧
      (due.map (·.1)).Nodup ∧
      ((∀ {day day' resolved resolved'}, schedule.ResolvesOn rt zone wallTime day resolved →
          schedule.ResolvesOn rt zone wallTime day' resolved' → resolved.utc = resolved'.utc →
            day = day') →
        due.Pairwise fun p q => ∀ resolved resolved',
          schedule.ResolvesOn rt zone wallTime p.1 resolved →
            schedule.ResolvesOn rt zone wallTime q.1 resolved' → resolved.utc < resolved'.utc) ∧
      (schedule.misfirePolicy = .catchUp →
        whole.triggers.map (·.occurrence) = due.map (·.2) ∧
          ∀ first rest, schedule.poll rt (.aware after) (.aware seam) = .ok first →
            schedule.poll rt (.aware seam) (.aware through) = .ok rest →
              whole.triggers = first.triggers ++ rest.triggers) ∧
      (schedule.misfirePolicy = .latestOnly →
        whole.triggers.map (·.occurrence) = (due.map (·.2)).getLast?.toList ∧
          ∀ catchUp, { schedule with misfirePolicy := .catchUp }.dueOccurrences rt after through =
            .ok catchUp → catchUp.map (·.dueAtUtc) = due.map (·.2.dueAtUtc)) := by
  obtain ⟨occurrences, hdue, htriggers, hcount⟩ := poll_eq_ok hwhole
  have hbuilds := builds_of_dueOccurrences hreads hsteady hdue
  have hemitted := occurrences_of_triggers htriggers
  have hseam := fun first rest =>
    @dueOccurrences_append _ _ _ _ _ _ hreads hsteady _ _ _ hafter hthrough _ first rest hdue
  have hpolicy := fun catchUp =>
    @dueTimes_eq_of_policy _ _ _ _ _ _ hreads hsteady _ _ .catchUp _ catchUp hdue
  obtain ⟨due, rfl, hsorted, hmem⟩ := dueOccurrences_eq_ok hreads hsteady hdue
  refine ⟨due, hdue, by simpa using hcount, hseam, ?_, hmem,
    dueDates_nodup hsorted hmem, dueTimes_increase hreads hsteady hsorted hmem, ?_, ?_⟩
  · intro hlow hhigh
    have hseamDay : dayOf after ≤ dayOf seam ∧ dayOf seam ≤ dayOf through := by
      simp only [dayOf, dayMicros]
      omega
    constructor
    · apply dueOccurrences_total hreads hlow hafter (by omega)
      intro day resolved hon hresolved hresolved'
      exact hbuilds day resolved hon hresolved (by omega)
    · apply dueOccurrences_total hreads (by omega) hthrough hhigh
      intro day resolved hon hresolved hresolved'
      exact hbuilds day resolved hon (by omega) hresolved'
  · intro hcatchUp
    refine ⟨?_, fun first rest => triggers_compose hreads hsteady hafter hthrough hcatchUp hwhole⟩
    rw [hemitted, selected, hcatchUp]
  · intro hlatest
    refine ⟨by rw [hemitted, selected, hlatest], fun catchUp h => ?_⟩
    rw [hpolicy catchUp h, List.map_map]
    rfl

end WallClockSchedule

/-! ## Zones -/

/-- A zone whose offset changes once. -/
def shiftingZone (shift before after : ℤ) (hbefore : |before| < dayMicros)
    (hafter : |after| < dayMicros) : ZoneInfo where
  utcoffset naive fold :=
    if fold then
      if shift + after ≤ naive then after else if naive < shift + before then before else after
    else if naive < shift + before then before else if shift + after ≤ naive then after else before
  offsetAt t := if t < shift then before else after
  utcoffset_lt := by
    intro naive fold
    split_ifs <;> assumption
  offsetAt_lt := by
    intro t
    split_ifs <;> assumption

/-- A reader of the timestamps that instants in UTC are printed as. -/
def readTimestamp (text : String) : Option DateTime := do
  let chars := text.toList
  let day ← dateFromIso (chars.take 10)
  let time ← timeFromIso ((chars.drop 11).take 8)
  match chars.drop 19 with
  | '.' :: rest => do
      let micros ← readDigits (rest.take 6)
      if rest.drop 6 = "+00:00".toList then return .aware (day * dayMicros + time + micros) else none
  | rest => if rest = "+00:00".toList then return .aware (day * dayMicros + time) else none

/-- A runtime with one zone. -/
def zoneRuntime (zone : ZoneInfo) : ScheduleRuntime where
  iso := ⟨readTimestamp, utcIso⟩
  sha256 _ := .ok (String.ofList (List.replicate 64 '0'))
  isDecimal := Char.isDigit
  zoneInfo _ := .ok zone

/-- A schedule of every morning. -/
def everyMorning : WallClockSchedule where
  scheduleId := "morning"
  sourceId := "clock"
  cadence := .daily
  timezone := "Zone"
  localTime := "09:00:00"
  startDate := "2025-01-01"

/-- The midnight that starts the first date of `everyMorning`. -/
def firstMorning : ℤ := 63871286400000000

/-- An hour. -/
def hour : ℤ := 3600000000

theorem ok_of_toOption {ε α β : Type} {x : Except ε α} {f : α → β} {b : β}
    (h : x.toOption.map f = some b) : ∃ a, x = .ok a ∧ f a = b := by
  cases x with
  | error e => simp [Except.toOption] at h
  | ok a => exact ⟨a, rfl, by simpa [Except.toOption] using h⟩

/-- The zone of `everyMorning` in UTC. -/
def utcZone : ZoneInfo := shiftingZone 0 0 0 (by decide) (by decide)

/-- What the schedule is read as. -/
theorem everyMorning_reads (zone : ZoneInfo) :
    everyMorning.ReadsAs (zoneRuntime zone) zone (9 * hour) 739251 none := by
  have hzone : requireText .macroScheduleContractError 128 "Zone" "timezone" = .ok "Zone" := by
    decide +kernel
  have htime : timeFromIso "09:00:00".toList = some (9 * hour) := by decide +kernel
  have hdate : dateFromIso "2025-01-01".toList = some 739251 := by decide +kernel
  have htimeRe : matchesTimeRe Char.isDigit "09:00:00".toList = true := by decide +kernel
  have hdateRe : matchesDateRe Char.isDigit "2025-01-01".toList = true := by decide +kernel
  refine ⟨?_, ?_, ?_, rfl⟩
  · exact bind_eq_ok.mpr ⟨"Zone", hzone, rfl⟩
  · refine bind_eq_ok.mpr ⟨"09:00:00", by decide +kernel, ?_⟩
    refine bind_eq_ok.mpr ⟨(), raiseIf_eq_ok.mpr fun h => h htimeRe, ?_⟩
    simp only [htime]
    rfl
  · refine bind_eq_ok.mpr ⟨"2025-01-01", by decide +kernel, ?_⟩
    refine bind_eq_ok.mpr ⟨(), raiseIf_eq_ok.mpr fun h => h hdateRe, ?_⟩
    simp only [hdate]
    rfl

/-- WITNESS: The morning of a day, polled at once and by halves of the day. -/
theorem morning_composes :
    ∃ whole first rest,
      everyMorning.poll (zoneRuntime utcZone) (.aware firstMorning)
        (.aware (firstMorning + 24 * hour)) = .ok whole ∧
      everyMorning.dueOccurrences (zoneRuntime utcZone) firstMorning (firstMorning + 12 * hour) =
        .ok first ∧
      everyMorning.dueOccurrences (zoneRuntime utcZone) (firstMorning + 12 * hour)
        (firstMorning + 24 * hour) = .ok rest ∧
      whole.candidateCount = 1 ∧ whole.triggers.map (·.occurrence) = first ++ rest := by
  have hsteady : utcZone.Steady := by
    refine ⟨fun naive fold => ?_, fun {s t} h => ?_⟩
    · simp [utcZone, shiftingZone]
    · simp only [utcZone, shiftingZone, ite_self, dayMicros]
      omega
  have hpoll : (everyMorning.poll (zoneRuntime utcZone) (.aware firstMorning)
      (.aware (firstMorning + 24 * hour))).toOption.map (·.candidateCount) = some 1 := by
    decide +kernel
  obtain ⟨whole, hwhole, hcount⟩ := ok_of_toOption hpoll
  obtain ⟨due, -, -, hcompose, hreturn, -, -, -, hcatchUp, -⟩ :=
    WallClockSchedule.poll_windows_compose (everyMorning_reads utcZone) hsteady (by decide)
      (by decide : firstMorning + 12 * hour ≤ firstMorning + 24 * hour) hwhole
  obtain ⟨⟨first, hfirst⟩, rest, hrest⟩ := hreturn (by decide) (by decide)
  refine ⟨whole, first, rest, hwhole, hfirst, hrest, hcount, ?_⟩
  rw [(hcatchUp rfl).1, hcompose first rest hfirst hrest]

/-- A zone whose local time falls back by 46 hours, a day and a half after `firstMorning`. -/
def fallingZone : ZoneInfo :=
  shiftingZone (firstMorning + 36 * hour) (23 * hour) (-23 * hour) (by decide) (by decide)

/-- A zone whose offset grows by half a second less than a day. -/
def splitZone : ZoneInfo :=
  shiftingZone (firstMorning + 21 * hour + 500000) (-12 * hour) (12 * hour - 500000) (by decide)
    (by decide)

/-- COUNTEREXAMPLE: Where the local time falls back by 46 hours, a poll over the first part of a
window finds a morning that a poll over all of it does not find. Where the offset grows by half a
second less than a day, the later of two mornings in one second comes first.
SOURCE: macro_schedule.py:434-470 -/
theorem mornings_do_not_compose :
    (∃ whole first,
      everyMorning.poll (zoneRuntime fallingZone) (.aware (firstMorning + 33 * hour))
        (.aware (firstMorning + 36 * hour)) = .ok whole ∧
      everyMorning.poll (zoneRuntime fallingZone) (.aware (firstMorning + 33 * hour))
        (.aware (firstMorning + 36 * hour - 1)) = .ok first ∧
      ∀ rest, whole.triggers ≠ first.triggers ++ rest) ∧
    ∃ occurrences,
      everyMorning.dueOccurrences (zoneRuntime splitZone) (firstMorning + 20 * hour)
        (firstMorning + 22 * hour) = .ok occurrences ∧
      occurrences.map (·.dueAtUtc) = ["2025-01-01T21:00:00.500000Z", "2025-01-01T21:00:00Z"] := by
  have hwhole : (everyMorning.poll (zoneRuntime fallingZone) (.aware (firstMorning + 33 * hour))
      (.aware (firstMorning + 36 * hour))).toOption.map (·.triggers.length) = some 0 := by
    decide +kernel
  have hfirst : (everyMorning.poll (zoneRuntime fallingZone) (.aware (firstMorning + 33 * hour))
      (.aware (firstMorning + 36 * hour - 1))).toOption.map (·.triggers.length) = some 1 := by
    decide +kernel
  have hsplit : (everyMorning.dueOccurrences (zoneRuntime splitZone) (firstMorning + 20 * hour)
      (firstMorning + 22 * hour)).toOption.map (·.map (·.dueAtUtc)) =
        some ["2025-01-01T21:00:00.500000Z", "2025-01-01T21:00:00Z"] := by
    decide +kernel
  obtain ⟨whole, hwhole, hnone⟩ := ok_of_toOption hwhole
  obtain ⟨first, hfirst, hone⟩ := ok_of_toOption hfirst
  obtain ⟨split, hsplit, hdue⟩ := ok_of_toOption hsplit
  refine ⟨⟨whole, first, hwhole, hfirst, fun rest heq => ?_⟩, split, hsplit, hdue⟩
  have hlength := congrArg List.length heq
  rw [List.length_append, hnone, hone] at hlength
  omega

end PhiOS
