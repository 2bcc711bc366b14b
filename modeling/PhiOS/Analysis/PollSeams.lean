import PhiOS.Analysis.PollWindows

/-!
# Polls over two windows

What a poll over a window finds is what polls over its two parts find, one after the other.
-/

set_option autoImplicit false

namespace PhiOS

open Calendar

namespace WallClockSchedule

variable {rt : ScheduleRuntime} {schedule : WallClockSchedule} {zone : ZoneInfo}
  {wallTime start : ℤ} {ends : Option ℤ}

/-! ## Seams -/

theorem ResolvesOn.unique {day : ℤ} {resolved resolved' : ResolvedTime}
    (h : schedule.ResolvesOn rt zone wallTime day resolved)
    (h' : schedule.ResolvesOn rt zone wallTime day resolved') : resolved = resolved' := by
  have hsome := h.resolves.symm.trans h'.resolves
  simpa using hsome

theorem ResolvesOn.wholeSecond (hreads : schedule.ReadsAs rt zone wallTime start ends)
    (hsteady : zone.Steady) {day : ℤ} {resolved : ResolvedTime}
    (h : schedule.ResolvesOn rt zone wallTime day resolved) : resolved.utc % 1000000 = 0 := by
  have hwall := (parseLocalTime_bounds hreads.wallTime).1
  have hread := resolveLocal_reads h.resolves
  obtain ⟨fold, hoffset⟩ := hread.reading
  have hnaive := hread.naive_eq
  have hsecond := hsteady.wholeSeconds (day * dayMicros + wallTime) fold
  rw [← hoffset] at hsecond
  simp only [ResolvedTime.utc, dayMicros] at *
  omega

theorem ResolvesOn.utcIso_lt (hreads : schedule.ReadsAs rt zone wallTime start ends)
    (hsteady : zone.Steady) {day day' : ℤ} {resolved resolved' : ResolvedTime}
    (h : schedule.ResolvesOn rt zone wallTime day resolved)
    (h' : schedule.ResolvesOn rt zone wallTime day' resolved') (hlt : resolved.utc < resolved'.utc) :
    utcIso resolved.utc < utcIso resolved'.utc :=
  Calendar.utcIso_lt (resolveLocal_reads h.resolves).utc_nonneg
    (resolveLocal_reads h'.resolves).utc_lt (h.wholeSecond hreads hsteady)
    (h'.wholeSecond hreads hsteady) hlt

theorem DueOn.before (hreads : schedule.ReadsAs rt zone wallTime start ends)
    (hsteady : zone.Steady) {after seam through : ℤ} {p q : ℤ × ScheduleOccurrence}
    (hp : schedule.DueOn rt zone wallTime after seam p.1 p.2)
    (hq : schedule.DueOn rt zone wallTime seam through q.1 q.2) : DueBefore p q := by
  obtain ⟨resolved, hon, -, hseam, hocc⟩ := hp
  obtain ⟨resolved', hon', hseam', -, hocc'⟩ := hq
  have hlt := hon.utcIso_lt hreads hsteady hon' (by omega)
  rw [← dueAtUtc_of_occurrence hocc, ← dueAtUtc_of_occurrence hocc'] at hlt
  refine ⟨.inl hlt, ?_⟩
  rintro (hgt | ⟨heq, -⟩)
  · exact absurd hgt (lt_asymm hlt)
  · exact absurd heq.symm hlt.ne

theorem dueOn_seam {after seam through : ℤ} (hafter : after ≤ seam) (hthrough : seam ≤ through)
    {day : ℤ} {occurrence : ScheduleOccurrence} :
    schedule.DueOn rt zone wallTime after through day occurrence ↔
      schedule.DueOn rt zone wallTime after seam day occurrence ∨
        schedule.DueOn rt zone wallTime seam through day occurrence := by
  constructor
  · rintro ⟨resolved, hon, hlow, hhigh, hocc⟩
    by_cases hseam : resolved.utc ≤ seam
    · exact .inl ⟨resolved, hon, hlow, hseam, hocc⟩
    · exact .inr ⟨resolved, hon, by omega, hhigh, hocc⟩
  · rintro (⟨resolved, hon, hlow, hhigh, hocc⟩ | ⟨resolved, hon, hlow, hhigh, hocc⟩)
    · exact ⟨resolved, hon, hlow, by omega, hocc⟩
    · exact ⟨resolved, hon, by omega, hhigh, hocc⟩

/-- What is due in a window is what is due in its first part, then what is due in its
second part. -/
theorem dueOccurrences_append (hreads : schedule.ReadsAs rt zone wallTime start ends)
    (hsteady : zone.Steady) {after seam through : ℤ} (hafter : after ≤ seam)
    (hthrough : seam ≤ through) {whole first rest : List ScheduleOccurrence}
    (hwhole : schedule.dueOccurrences rt after through = .ok whole)
    (hfirst : schedule.dueOccurrences rt after seam = .ok first)
    (hrest : schedule.dueOccurrences rt seam through = .ok rest) : whole = first ++ rest := by
  obtain ⟨due, rfl, hsorted, hmem⟩ := dueOccurrences_eq_ok hreads hsteady hwhole
  obtain ⟨due₁, rfl, hsorted₁, hmem₁⟩ := dueOccurrences_eq_ok hreads hsteady hfirst
  obtain ⟨due₂, rfl, hsorted₂, hmem₂⟩ := dueOccurrences_eq_ok hreads hsteady hrest
  have hboth : (due₁ ++ due₂).Pairwise DueBefore := by
    rw [List.pairwise_append]
    refine ⟨hsorted₁, hsorted₂, fun p hp q hq => ?_⟩
    exact DueOn.before hreads hsteady ((hmem₁ p).mp hp) ((hmem₂ q).mp hq)
  have hsame : due = due₁ ++ due₂ := by
    apply StableSort.eq_of_mem_iff (fun p q h h' => absurd h (lt_asymm h')) hsorted hboth
    intro p
    rw [hmem p, List.mem_append, hmem₁ p, hmem₂ p]
    exact dueOn_seam hafter hthrough
  rw [hsame, List.map_append]

/-- Each date has one occurrence at most. -/
theorem dueDates_nodup {due : List (ℤ × ScheduleOccurrence)} {after through : ℤ}
    (hsorted : due.Pairwise DueBefore)
    (hmem : ∀ p, p ∈ due ↔ schedule.DueOn rt zone wallTime after through p.1 p.2) :
    (due.map (·.1)).Nodup := by
  rw [List.Nodup, List.pairwise_map]
  apply hsorted.imp_of_mem
  intro p q hp hq hbefore heq
  obtain ⟨resolved, hon, -, -, hocc⟩ := (hmem p).mp hp
  obtain ⟨resolved', hon', -, -, hocc'⟩ := (hmem q).mp hq
  rw [← heq] at hon'
  obtain rfl := hon.unique hon'
  have hsame : p.2 = q.2 := by simpa using hocc.symm.trans hocc'
  have hrank : sortsBefore q.2 p.2 := by
    rw [hsame]
    exact (sortsBefore_total q.2 q.2).elim id id
  have hlt : p.1 < q.1 := hbefore.2 hrank
  omega

/-- The due times are in order, strictly where dates do not share them. -/
theorem dueTimes_increase (hreads : schedule.ReadsAs rt zone wallTime start ends)
    (hsteady : zone.Steady) {due : List (ℤ × ScheduleOccurrence)} {after through : ℤ}
    (hsorted : due.Pairwise DueBefore)
    (hmem : ∀ p, p ∈ due ↔ schedule.DueOn rt zone wallTime after through p.1 p.2)
    (hdistinct : ∀ {day day' resolved resolved'}, schedule.ResolvesOn rt zone wallTime day resolved →
      schedule.ResolvesOn rt zone wallTime day' resolved' → resolved.utc = resolved'.utc →
        day = day') :
    due.Pairwise fun p q => ∀ resolved resolved', schedule.ResolvesOn rt zone wallTime p.1 resolved →
      schedule.ResolvesOn rt zone wallTime q.1 resolved' → resolved.utc < resolved'.utc := by
  have hdates := List.pairwise_map.mp (dueDates_nodup hsorted hmem)
  apply (hsorted.and hdates).imp_of_mem
  intro p q hp hq ⟨hbefore, hne⟩ resolved resolved' hon hon'
  rcases lt_trichotomy resolved.utc resolved'.utc with hlt | heq | hgt
  · exact hlt
  · exact absurd (hdistinct hon hon' heq) hne
  · obtain ⟨r, hr, -, -, hocc⟩ := (hmem p).mp hp
    obtain ⟨r', hr', -, -, hocc'⟩ := (hmem q).mp hq
    obtain rfl := hon.unique hr
    obtain rfl := hon'.unique hr'
    have htext := hon'.utcIso_lt hreads hsteady hon hgt
    rw [← dueAtUtc_of_occurrence hocc, ← dueAtUtc_of_occurrence hocc'] at htext
    rcases hbefore.1 with hlt | ⟨heq, -⟩
    · exact absurd hlt (lt_asymm htext)
    · exact absurd heq.symm htext.ne

/-! ## Polls that return -/

/-- Away from the ends of the calendar, every local time is looked up. -/
theorem resolveLocal_total (zone : ZoneInfo) (policy : AmbiguousTimePolicy) {naive : ℤ}
    (hlow : 2 * dayMicros ≤ naive) (hhigh : naive < (maxDay - 1) * dayMicros) :
    ∃ resolved, resolveLocal naive zone policy = .ok resolved := by
  have hcandidate : ∀ fold, ∃ candidate, localCandidate naive zone fold = .ok candidate := by
    intro fold
    have hoffset := abs_lt.mp (zone.utcoffset_lt naive fold)
    have hback := abs_lt.mp (zone.offsetAt_lt (naive - zone.utcoffset naive fold))
    simp only [dayMicros, maxDay] at hlow hhigh hoffset hback
    have hutc : datetime (naive - zone.utcoffset naive fold) =
        .ok (naive - zone.utcoffset naive fold) := by
      refine datetime_eq_ok.mpr ⟨rfl, ?_, ?_⟩
      · omega
      · simp only [dayMicros, maxDay]
        omega
    have hround : datetime (naive - zone.utcoffset naive fold +
        zone.offsetAt (naive - zone.utcoffset naive fold)) =
          .ok (naive - zone.utcoffset naive fold +
            zone.offsetAt (naive - zone.utcoffset naive fold)) := by
      refine datetime_eq_ok.mpr ⟨rfl, ?_, ?_⟩
      · omega
      · simp only [dayMicros, maxDay]
        omega
    exact ⟨_, bind_eq_ok.mpr ⟨_, hutc, bind_eq_ok.mpr ⟨_, hround, rfl⟩⟩⟩
  obtain ⟨first, hfirst⟩ := hcandidate false
  obtain ⟨second, hsecond⟩ := hcandidate true
  exact ⟨_, bind_eq_ok.mpr ⟨first, hfirst, bind_eq_ok.mpr ⟨second, hsecond, rfl⟩⟩⟩

/-- A schedule that can be read answers for every date. -/
theorem dateMatches_total (hreads : schedule.ReadsAs rt zone wallTime start ends) (day : ℤ) :
    ∃ isDate, schedule.dateMatches rt day = .ok isDate := by
  rw [dateMatches, hreads.start]
  by_cases hbefore : day < start
  · exact ⟨false, bind_eq_ok.mpr ⟨start, rfl, by rw [if_pos hbefore]; rfl⟩⟩
  · by_cases hafter : ∃ last ∈ ends, last < day
    · refine ⟨false, bind_eq_ok.mpr ⟨start, rfl, ?_⟩⟩
      rw [if_neg hbefore]
      exact bind_eq_ok.mpr ⟨ends, hreads.ends, by rw [if_pos hafter]; rfl⟩
    · cases hcadence : schedule.cadence with
      | once =>
          refine ⟨decide (day = start), bind_eq_ok.mpr ⟨start, rfl, ?_⟩⟩
          rw [if_neg hbefore]
          exact bind_eq_ok.mpr ⟨ends, hreads.ends, by rw [if_neg hafter]; rfl⟩
      | daily =>
          refine ⟨true, bind_eq_ok.mpr ⟨start, rfl, ?_⟩⟩
          rw [if_neg hbefore]
          exact bind_eq_ok.mpr ⟨ends, hreads.ends, by rw [if_neg hafter]; rfl⟩
      | weekly =>
          refine ⟨decide (isoweekday day ∈ schedule.weekdays.map (·.iso)),
            bind_eq_ok.mpr ⟨start, rfl, ?_⟩⟩
          rw [if_neg hbefore]
          exact bind_eq_ok.mpr ⟨ends, hreads.ends, by rw [if_neg hafter]; rfl⟩

variable (rt schedule zone wallTime) in
/-- The occurrences that are due in a window can be built. -/
def Builds (after through : ℤ) : Prop :=
  ∀ day resolved, schedule.ResolvesOn rt zone wallTime day resolved → after < resolved.utc →
    resolved.utc ≤ through → ∃ occurrence, schedule.occurrence rt resolved = .ok occurrence

/-- One turn of the loop returns away from the ends of the calendar. -/
theorem dueOn_total (hreads : schedule.ReadsAs rt zone wallTime start ends) {after through day : ℤ}
    (hbuilds : schedule.Builds rt zone wallTime after through) (hlow : 2 ≤ day)
    (hhigh : day ≤ maxDay - 2) :
    ∃ found, schedule.dueOn rt zone wallTime after through day = .ok found := by
  obtain ⟨-, hnonneg, hlt⟩ := parseLocalTime_bounds hreads.wallTime
  obtain ⟨isDate, hmatches⟩ := dateMatches_total hreads day
  cases isDate with
  | false => exact ⟨none, bind_eq_ok.mpr ⟨false, hmatches, rfl⟩⟩
  | true =>
      have hlow' : 2 * dayMicros ≤ day * dayMicros + wallTime := by
        simp only [dayMicros] at *
        omega
      have hhigh' : day * dayMicros + wallTime < (maxDay - 1) * dayMicros := by
        simp only [dayMicros, maxDay] at *
        omega
      obtain ⟨time, htime⟩ := resolveLocal_total zone schedule.ambiguousTimePolicy hlow' hhigh'
      cases time with
      | none =>
          exact ⟨none, bind_eq_ok.mpr ⟨true, hmatches, bind_eq_ok.mpr ⟨none, htime, rfl⟩⟩⟩
      | some resolved =>
          by_cases hwindow : after < resolved.utc ∧ resolved.utc ≤ through
          · obtain ⟨occurrence, hocc⟩ := hbuilds day resolved ⟨hmatches, htime⟩ hwindow.1 hwindow.2
            refine ⟨some occurrence, bind_eq_ok.mpr ⟨true, hmatches,
              bind_eq_ok.mpr ⟨some resolved, htime, ?_⟩⟩⟩
            simp only [if_pos hwindow]
            exact map_eq_ok.mpr ⟨occurrence, hocc, rfl⟩
          · refine ⟨none, bind_eq_ok.mpr ⟨true, hmatches,
              bind_eq_ok.mpr ⟨some resolved, htime, ?_⟩⟩⟩
            simp only [if_neg hwindow]
            rfl

/-- The loop returns if each of its turns does. -/
theorem dueLoop_total {after through : ℤ} {dates : ℕ} {current : ℤ} (hlow : 0 ≤ current)
    (hhigh : current + dates ≤ maxDay)
    (hturns : ∀ day, current ≤ day → day < current + dates →
      ∃ found, schedule.dueOn rt zone wallTime after through day = .ok found) :
    ∃ occurrences, schedule.dueLoop rt zone wallTime after through dates current =
      .ok occurrences := by
  induction dates generalizing current with
  | zero => exact ⟨[], rfl⟩
  | succ dates ih =>
      push_cast at hhigh hturns
      obtain ⟨found, hfound⟩ := hturns current (le_refl _) (by omega)
      have hnext : date (current + 1) = .ok (current + 1) := by
        rw [date_eq_ok]
        omega
      obtain ⟨rest, hrest⟩ := @ih (current + 1) (by omega) (by omega)
        fun day hday hday' => hturns day (by omega) (by omega)
      exact ⟨found.toList ++ rest, bind_eq_ok.mpr ⟨found, hfound,
        bind_eq_ok.mpr ⟨current + 1, hnext, bind_eq_ok.mpr ⟨rest, hrest, rfl⟩⟩⟩⟩

/-- A loop that returns has returned from each of its turns. -/
theorem dueLoop_turns {after through : ℤ} {dates : ℕ} {current : ℤ}
    {occurrences : List ScheduleOccurrence}
    (h : schedule.dueLoop rt zone wallTime after through dates current = .ok occurrences) {day : ℤ}
    (hlow : current ≤ day) (hhigh : day < current + dates) :
    ∃ found, schedule.dueOn rt zone wallTime after through day = .ok found := by
  induction dates generalizing current occurrences with
  | zero =>
      simp only [Nat.cast_zero] at hhigh
      omega
  | succ dates ih =>
      rw [dueLoop] at h
      obtain ⟨found, hfound, h⟩ := bind_eq_ok.mp h
      obtain ⟨next, hnext, h⟩ := bind_eq_ok.mp h
      obtain ⟨rest, hrest, -⟩ := bind_eq_ok.mp h
      have hnext' := (date_eq_ok.mp hnext).1
      push_cast at hhigh
      by_cases hday : day = current
      · rw [hday]
        exact ⟨found, hfound⟩
      · exact ih hrest (by omega) (by omega)

theorem occurrence_of_dueOn {after through day : ℤ} {found : Option ScheduleOccurrence}
    (h : schedule.dueOn rt zone wallTime after through day = .ok found) {resolved : ResolvedTime}
    (hon : schedule.ResolvesOn rt zone wallTime day resolved) (hafter : after < resolved.utc)
    (hthrough : resolved.utc ≤ through) :
    ∃ occurrence, schedule.occurrence rt resolved = .ok occurrence := by
  rw [dueOn, hon.dateMatches] at h
  obtain ⟨_, ⟨⟩, h⟩ := bind_eq_ok.mp h
  rw [if_pos rfl, hon.resolves] at h
  obtain ⟨_, ⟨⟩, h⟩ := bind_eq_ok.mp h
  simp only [if_pos (And.intro hafter hthrough)] at h
  obtain ⟨occurrence, hocc, -⟩ := map_eq_ok.mp h
  exact ⟨occurrence, hocc⟩

/-- A poll that returns has built what is due in its window. -/
theorem builds_of_dueOccurrences (hreads : schedule.ReadsAs rt zone wallTime start ends)
    (hsteady : zone.Steady) {after through : ℤ} {occurrences : List ScheduleOccurrence}
    (h : schedule.dueOccurrences rt after through = .ok occurrences) :
    schedule.Builds rt zone wallTime after through := by
  intro day resolved hon hafter hthrough
  rw [dueOccurrences, hreads.zone, hreads.wallTime, hreads.start, hreads.ends] at h
  obtain ⟨_, ⟨⟩, h⟩ := bind_eq_ok.mp h
  obtain ⟨_, ⟨⟩, h⟩ := bind_eq_ok.mp h
  obtain ⟨_, ⟨⟩, h⟩ := bind_eq_ok.mp h
  obtain ⟨_, ⟨⟩, h⟩ := bind_eq_ok.mp h
  obtain ⟨localAfter, hlocalAfter, h⟩ := bind_eq_ok.mp h
  obtain ⟨firstLocal, hfirst, h⟩ := bind_eq_ok.mp h
  obtain ⟨localThrough, hlocalThrough, h⟩ := bind_eq_ok.mp h
  obtain ⟨lastLocal, hlast, h⟩ := bind_eq_ok.mp h
  obtain ⟨found, hfound, -⟩ := bind_eq_ok.mp h
  obtain ⟨rfl, -, -⟩ := datetime_eq_ok.mp hlocalAfter
  obtain ⟨rfl, -, -⟩ := datetime_eq_ok.mp hlocalThrough
  obtain ⟨rfl, -, -⟩ := date_eq_ok.mp hfirst
  obtain ⟨rfl, -, -⟩ := date_eq_ok.mp hlast
  obtain ⟨hlow, hhigh⟩ := hon.date_bounds hreads hsteady hafter hthrough
  obtain ⟨turn, hturn⟩ := dueLoop_turns hfound hlow (by omega)
  exact occurrence_of_dueOn hturn hon hafter hthrough

/-- Four days inside of the calendar, what is due in a window is found. -/
theorem dueOccurrences_total (hreads : schedule.ReadsAs rt zone wallTime start ends)
    {after through : ℤ} (hafter : 4 ≤ dayOf after) (horder : after ≤ through)
    (hthrough : dayOf through ≤ maxDay - 4)
    (hbuilds : schedule.Builds rt zone wallTime after through) :
    ∃ occurrences, schedule.dueOccurrences rt after through = .ok occurrences := by
  have hoffset := abs_lt.mp (zone.offsetAt_lt after)
  have hoffset' := abs_lt.mp (zone.offsetAt_lt through)
  simp only [dayOf, dayMicros, maxDay] at hafter hthrough hoffset hoffset'
  have hlocalAfter : datetime (after + zone.offsetAt after) = .ok (after + zone.offsetAt after) := by
    refine datetime_eq_ok.mpr ⟨rfl, by omega, ?_⟩
    simp only [dayMicros, maxDay]
    omega
  have hlocalThrough : datetime (through + zone.offsetAt through) =
      .ok (through + zone.offsetAt through) := by
    refine datetime_eq_ok.mpr ⟨rfl, by omega, ?_⟩
    simp only [dayMicros, maxDay]
    omega
  have hfirst : date (dayOf (after + zone.offsetAt after) - 1) =
      .ok (dayOf (after + zone.offsetAt after) - 1) := by
    refine date_eq_ok.mpr ⟨rfl, ?_, ?_⟩ <;> simp only [dayOf, dayMicros, maxDay] <;> omega
  have hlast : date (dayOf (through + zone.offsetAt through) + 1) =
      .ok (dayOf (through + zone.offsetAt through) + 1) := by
    refine date_eq_ok.mpr ⟨rfl, ?_, ?_⟩ <;> simp only [dayOf, dayMicros, maxDay] <;> omega
  obtain ⟨current, hcurrent⟩ :
      ∃ current, current = max (dayOf (after + zone.offsetAt after) - 1) start := ⟨_, rfl⟩
  obtain ⟨last, hlastEq⟩ : ∃ last, last = ends.elim (dayOf (through + zone.offsetAt through) + 1)
    (min (dayOf (through + zone.offsetAt through) + 1)) := ⟨_, rfl⟩
  have hlow : 2 ≤ current := by
    rw [hcurrent]
    simp only [dayOf, dayMicros]
    omega
  have hhigh : last ≤ maxDay - 2 := by
    have hle : last ≤ dayOf (through + zone.offsetAt through) + 1 := by
      rw [hlastEq]
      cases ends with
      | none => exact le_refl _
      | some day => exact min_le_left _ _
    simp only [dayOf, dayMicros, maxDay] at *
    omega
  have hloop : ∃ found, schedule.dueLoop rt zone wallTime after through (last + 1 - current).toNat
      current = .ok found := by
    by_cases hnone : last + 1 ≤ current
    · have hzero : (last + 1 - current).toNat = 0 := by omega
      rw [hzero]
      exact ⟨[], rfl⟩
    · apply dueLoop_total (by omega) (by omega)
      intro day hday hday'
      exact dueOn_total hreads hbuilds (by omega) (by omega)
  obtain ⟨found, hfound⟩ := hloop
  rw [hcurrent, hlastEq] at hfound
  exact ⟨_, bind_eq_ok.mpr ⟨_, hreads.zone, bind_eq_ok.mpr ⟨_, hreads.wallTime,
    bind_eq_ok.mpr ⟨_, hreads.start, bind_eq_ok.mpr ⟨_, hreads.ends,
    bind_eq_ok.mpr ⟨_, hlocalAfter, bind_eq_ok.mpr ⟨_, hfirst,
    bind_eq_ok.mpr ⟨_, hlocalThrough, bind_eq_ok.mpr ⟨_, hlast,
    bind_eq_ok.mpr ⟨found, hfound, rfl⟩⟩⟩⟩⟩⟩⟩⟩⟩⟩

end WallClockSchedule

end PhiOS
