import PhiOS.Analysis.CalendarOrder
import PhiOS.Library.StableSort
import PhiOS.Model.MacroSchedule

/-!
# Poll windows compose

The occurrences that are due in a window, each with its date, are a list that its members determine:
it is in the order of the due times, then of the identifiers, then of the dates. The members are the
matching dates that resolve into the window, since a zone that never falls back by more than a day
keeps them among the dates that a poll looks at.
-/

set_option autoImplicit false

namespace PhiOS

open Calendar

/-- What composition asks of a zone: its offsets are whole seconds, and the local time never falls
back by more than a day. -/
structure ZoneInfo.Steady (zone : ZoneInfo) : Prop where
  wholeSeconds : ∀ naive fold, zone.utcoffset naive fold % 1000000 = 0
  fallsBack : ∀ {s t}, s ≤ t → s + zone.offsetAt s ≤ t + zone.offsetAt t + dayMicros

/-! ## Local times -/

/-- A local time of a zone, read back from its instant. -/
structure ResolvedTime.Reads (resolved : ResolvedTime) (zone : ZoneInfo) (naive : ℤ) : Prop where
  naive_eq : resolved.naive = naive
  reading : ∃ fold, resolved.offset = zone.utcoffset naive fold
  utc_nonneg : 0 ≤ resolved.utc
  utc_lt : resolved.utc < (maxDay + 1) * dayMicros
  roundtrip : resolved.utc + zone.offsetAt resolved.utc = naive

theorem datetime_eq_ok {t u : ℤ} : datetime t = .ok u ↔ t = u ∧ 0 ≤ t ∧ t < (maxDay + 1) * dayMicros := by
  unfold datetime
  by_cases h : 0 ≤ t ∧ t < (maxDay + 1) * dayMicros
  · simp [h]
  · simp [h]

theorem date_eq_ok {t u : ℤ} : date t = .ok u ↔ t = u ∧ 0 ≤ t ∧ t ≤ maxDay := by
  unfold date
  by_cases h : 0 ≤ t ∧ t ≤ maxDay
  · simp [h]
  · simp [h]

theorem localCandidate_reads {naive : ℤ} {zone : ZoneInfo} {fold : Bool} {resolved : ResolvedTime}
    (h : localCandidate naive zone fold = .ok (some resolved)) : resolved.Reads zone naive := by
  obtain ⟨utc, hutc, h⟩ := bind_eq_ok.mp h
  obtain ⟨roundtrip, hround, h⟩ := bind_eq_ok.mp h
  obtain ⟨rfl, hlow, hhigh⟩ := datetime_eq_ok.mp hutc
  obtain ⟨rfl, -, -⟩ := datetime_eq_ok.mp hround
  by_cases heq : naive - zone.utcoffset naive fold +
      zone.offsetAt (naive - zone.utcoffset naive fold) = naive
  · simp only [heq, if_true, pure, Except.pure, Except.ok.injEq, Option.some.injEq] at h
    subst h
    exact ⟨rfl, ⟨fold, rfl⟩, hlow, hhigh, heq⟩
  · simp [heq, pure, Except.pure] at h

/-- What is taken is one of the two. -/
theorem select_eq_some {policy : AmbiguousTimePolicy} {first second : Option ResolvedTime}
    {resolved : ResolvedTime} (h : policy.select first second = some resolved) :
    first = some resolved ∨ second = some resolved := by
  cases first with
  | none => exact .inr (by simpa [AmbiguousTimePolicy.select] using h)
  | some first =>
      cases second with
      | none => exact .inl (by simpa [AmbiguousTimePolicy.select] using h)
      | some second =>
          simp only [AmbiguousTimePolicy.select] at h
          by_cases hkey : first.key = second.key
          · rw [if_pos hkey] at h
            exact .inr h
          · rw [if_neg hkey] at h
            by_cases hlt : first.key < second.key
            · cases policy with
              | earlier => exact .inl (by simpa [hlt] using h)
              | later => exact .inr (by simpa [hlt] using h)
            · cases policy with
              | earlier => exact .inr (by simpa [hlt] using h)
              | later => exact .inl (by simpa [hlt] using h)

theorem resolveLocal_reads {naive : ℤ} {zone : ZoneInfo} {policy : AmbiguousTimePolicy}
    {resolved : ResolvedTime} (h : resolveLocal naive zone policy = .ok (some resolved)) :
    resolved.Reads zone naive := by
  obtain ⟨first, hfirst, h⟩ := bind_eq_ok.mp h
  obtain ⟨second, hsecond, h⟩ := bind_eq_ok.mp h
  have hsome : policy.select first second = some resolved := by
    simpa [pure, Except.pure] using h
  rcases select_eq_some hsome with rfl | rfl
  · exact localCandidate_reads hfirst
  · exact localCandidate_reads hsecond

theorem timeFromIso_bounds {text : List Char} {wallTime : ℤ} (h : timeFromIso text = some wallTime) :
    wallTime % 1000000 = 0 ∧ 0 ≤ wallTime ∧ wallTime < dayMicros := by
  unfold timeFromIso at h
  split at h
  · split at h
    · split at h
      · rename_i hour minute second _ _ _ hbounds
        simp only [Option.some.injEq] at h
        unfold dayMicros
        omega
      · cases h
    · cases h
  · cases h

theorem parseLocalTime_bounds {rt : ScheduleRuntime} {value : String} {wallTime : ℤ}
    (h : parseLocalTime rt value = .ok wallTime) :
    wallTime % 1000000 = 0 ∧ 0 ≤ wallTime ∧ wallTime < dayMicros := by
  obtain ⟨text, -, h⟩ := bind_eq_ok.mp h
  obtain ⟨-, -, h⟩ := bind_eq_ok.mp h
  split at h
  · rename_i micros hmicros
    obtain rfl : micros = wallTime := by simpa [pure, Except.pure] using h
    exact timeFromIso_bounds hmicros
  · cases h

/-! ## Dates -/

namespace WallClockSchedule

variable (rt : ScheduleRuntime) (schedule : WallClockSchedule) (zone : ZoneInfo) (wallTime : ℤ)

/-- A date of the schedule, and the time that it resolves to. -/
structure ResolvesOn (day : ℤ) (resolved : ResolvedTime) : Prop where
  dateMatches : schedule.dateMatches rt day = .ok true
  resolves : resolveLocal (day * dayMicros + wallTime) zone schedule.ambiguousTimePolicy =
    .ok (some resolved)

/-- The occurrence of a date is due in a window. -/
def DueOn (after through day : ℤ) (occurrence : ScheduleOccurrence) : Prop :=
  ∃ resolved, schedule.ResolvesOn rt zone wallTime day resolved ∧ after < resolved.utc ∧
    resolved.utc ≤ through ∧ schedule.occurrence rt resolved = .ok occurrence

variable {rt schedule zone wallTime}

theorem dueAtUtc_of_occurrence {resolved : ResolvedTime} {occurrence : ScheduleOccurrence}
    (h : schedule.occurrence rt resolved = .ok occurrence) :
    occurrence.dueAtUtc = utcIso resolved.utc := by
  obtain ⟨scheduleSha256, -, h⟩ := bind_eq_ok.mp h
  obtain ⟨digest, -, h⟩ := bind_eq_ok.mp h
  obtain ⟨-, -, h⟩ := bind_eq_ok.mp h
  obtain rfl := by simpa [pure, Except.pure] using h
  rfl

theorem map_eq_ok {ε α β : Type} {f : α → β} {x : Except ε α} {b : β} :
    f <$> x = .ok b ↔ ∃ a, x = .ok a ∧ f a = b := by
  cases x <;> simp [Functor.map, Except.map]

/-- One turn of the loop finds what is due on its date.
SOURCE: macro_schedule.py:444-461 -/
theorem dueOn_eq_ok {after through day : ℤ} {found : Option ScheduleOccurrence}
    (h : schedule.dueOn rt zone wallTime after through day = .ok found)
    (occurrence : ScheduleOccurrence) :
    found = some occurrence ↔ schedule.DueOn rt zone wallTime after through day occurrence := by
  have hnone : (.ok none : Except PyError (Option ScheduleOccurrence)) = .ok found →
      (¬ ∃ o, schedule.DueOn rt zone wallTime after through day o) →
      (found = some occurrence ↔ schedule.DueOn rt zone wallTime after through day occurrence) := by
    intro hfound hdue
    obtain rfl : none = found := by simpa using hfound
    exact ⟨fun h => by simp at h, fun h => absurd ⟨occurrence, h⟩ hdue⟩
  obtain ⟨isDate, hmatches, h⟩ := bind_eq_ok.mp h
  cases isDate with
  | false =>
      apply hnone h
      rintro ⟨o, resolved, hon, -⟩
      have hfalse := hmatches.symm.trans hon.dateMatches
      simp at hfalse
  | true =>
      obtain ⟨time, htime, h⟩ := bind_eq_ok.mp h
      cases time with
      | none =>
          apply hnone h
          rintro ⟨o, resolved, hon, -⟩
          have hsome := htime.symm.trans hon.resolves
          simp at hsome
      | some resolved =>
          have hsame : ∀ resolved', schedule.ResolvesOn rt zone wallTime day resolved' →
              resolved' = resolved := by
            intro resolved' hon
            have hsome := htime.symm.trans hon.resolves
            simpa using hsome.symm
          simp only at h
          by_cases hwindow : after < resolved.utc ∧ resolved.utc ≤ through
          · rw [if_pos hwindow] at h
            obtain ⟨o, ho, rfl⟩ := map_eq_ok.mp h
            constructor
            · intro heq
              obtain rfl : o = occurrence := by simpa using heq
              exact ⟨resolved, ⟨hmatches, htime⟩, hwindow.1, hwindow.2, ho⟩
            · rintro ⟨resolved', hon, -, -, ho'⟩
              rw [hsame resolved' hon] at ho'
              have heq := ho.symm.trans ho'
              simpa using heq
          · rw [if_neg hwindow] at h
            apply hnone h
            rintro ⟨o, resolved', hon, hafter, hthrough, -⟩
            rw [hsame resolved' hon] at hafter hthrough
            exact hwindow ⟨hafter, hthrough⟩

/-- The loop finds what is due on the dates that it looks at, in the order of the dates.
SOURCE: macro_schedule.py:443-462 -/
theorem dueLoop_eq_ok {after through : ℤ} {dates : ℕ} {current : ℤ}
    {occurrences : List ScheduleOccurrence}
    (h : schedule.dueLoop rt zone wallTime after through dates current = .ok occurrences) :
    ∃ due : List (ℤ × ScheduleOccurrence), occurrences = due.map (·.2) ∧
      due.Pairwise (·.1 < ·.1) ∧ ∀ p, p ∈ due ↔ current ≤ p.1 ∧ p.1 < current + dates ∧
        schedule.DueOn rt zone wallTime after through p.1 p.2 := by
  induction dates generalizing current occurrences with
  | zero =>
      obtain rfl : [] = occurrences := by simpa [dueLoop] using h
      refine ⟨[], rfl, .nil, fun p => ⟨by simp, ?_⟩⟩
      rintro ⟨hlow, hhigh, -⟩
      simp only [Nat.cast_zero] at hhigh
      omega
  | succ dates ih =>
      rw [dueLoop] at h
      obtain ⟨found, hfound, h⟩ := bind_eq_ok.mp h
      obtain ⟨next, hnext, h⟩ := bind_eq_ok.mp h
      obtain ⟨rest, hrest, h⟩ := bind_eq_ok.mp h
      obtain rfl : found.toList ++ rest = occurrences := by simpa [pure, Except.pure] using h
      obtain ⟨rfl, -, -⟩ := date_eq_ok.mp hnext
      obtain ⟨due, rfl, hsorted, hmem⟩ := ih hrest
      have hturn := dueOn_eq_ok hfound
      refine ⟨found.toList.map (current, ·) ++ due, by simp, ?_, ?_⟩
      · rw [List.pairwise_append]
        refine ⟨by cases found <;> simp, hsorted, ?_⟩
        rintro p hp q hq
        have hlow := ((hmem q).mp hq).1
        obtain ⟨o, -, rfl⟩ := List.mem_map.mp hp
        simp only
        omega
      · intro p
        rw [List.mem_append, hmem p]
        push_cast
        constructor
        · rintro (hp | ⟨hlow, hhigh, hdue⟩)
          · obtain ⟨o, ho, rfl⟩ := List.mem_map.mp hp
            exact ⟨le_refl _, by simp only; omega, (hturn o).mp (by simpa using ho)⟩
          · exact ⟨by omega, by omega, hdue⟩
        · rintro ⟨hlow, hhigh, hdue⟩
          by_cases hcurrent : p.1 = current
          · left
            rw [hcurrent] at hdue
            have hsome := (hturn p.2).mpr hdue
            rw [hsome, ← hcurrent]
            simp
          · exact .inr ⟨by omega, by omega, hdue⟩

/-- A date that matches is in the range of the schedule. -/
theorem dateMatches_range {start day : ℤ} {ends : Option ℤ}
    (hstart : parseDate rt schedule.startDate "start_date" = .ok start)
    (hends : parseOptionalDate rt schedule.endDate "end_date" = .ok ends)
    (h : schedule.dateMatches rt day = .ok true) : start ≤ day ∧ ∀ last ∈ ends, day ≤ last := by
  obtain ⟨start', hstart', h⟩ := bind_eq_ok.mp h
  obtain rfl : start' = start := by simpa using hstart'.symm.trans hstart
  by_cases hbefore : day < start'
  · simp [hbefore, pure, Except.pure] at h
  · rw [if_neg hbefore] at h
    obtain ⟨ends', hends', h⟩ := bind_eq_ok.mp h
    obtain rfl : ends' = ends := by simpa using hends'.symm.trans hends
    by_cases hafter : ∃ last ∈ ends', last < day
    · rw [if_pos hafter] at h
      simp [pure, Except.pure] at h
    · refine ⟨by omega, fun last hlast => ?_⟩
      by_contra hlt
      exact hafter ⟨last, hlast, by omega⟩

/-! ## Windows -/

variable (rt schedule) in
/-- What a poll reads of the schedule. -/
structure ReadsAs (zone : ZoneInfo) (wallTime start : ℤ) (ends : Option ℤ) : Prop where
  zone : parseZone rt schedule.timezone = .ok zone
  wallTime : parseLocalTime rt schedule.localTime = .ok wallTime
  start : parseDate rt schedule.startDate "start_date" = .ok start
  ends : parseOptionalDate rt schedule.endDate "end_date" = .ok ends

variable {start : ℤ} {ends : Option ℤ}

/-- A date that resolves into a window is one of the dates that the poll looks at. -/
theorem ResolvesOn.date_bounds (hreads : schedule.ReadsAs rt zone wallTime start ends)
    (hsteady : zone.Steady) {after through day : ℤ} {resolved : ResolvedTime}
    (hon : schedule.ResolvesOn rt zone wallTime day resolved) (hafter : after < resolved.utc)
    (hthrough : resolved.utc ≤ through) :
    max (dayOf (after + zone.offsetAt after) - 1) start ≤ day ∧
      day ≤ ends.elim (dayOf (through + zone.offsetAt through) + 1)
        (min (dayOf (through + zone.offsetAt through) + 1)) := by
  obtain ⟨hfirst, hlast⟩ := dateMatches_range hreads.start hreads.ends hon.dateMatches
  obtain ⟨-, hnonneg, hlt⟩ := parseLocalTime_bounds hreads.wallTime
  have hround := (resolveLocal_reads hon.resolves).roundtrip
  have hback := hsteady.fallsBack hafter.le
  have hback' := hsteady.fallsBack hthrough
  have hlow : dayOf (after + zone.offsetAt after) - 1 ≤ day := by
    simp only [dayOf, dayMicros] at *
    omega
  have hhigh : day ≤ dayOf (through + zone.offsetAt through) + 1 := by
    simp only [dayOf, dayMicros] at *
    omega
  refine ⟨max_le hlow hfirst, ?_⟩
  cases ends with
  | none => exact hhigh
  | some last => exact le_min hhigh (hlast last rfl)

/-- The order of what is due: the due times and the identifiers, then the dates. -/
abbrev DueBefore : ℤ × ScheduleOccurrence → ℤ × ScheduleOccurrence → Prop :=
  StableSort.Before (fun p q => sortsBefore p.2 q.2) (·.1 < ·.1)

theorem sortsBefore_total (a b : ScheduleOccurrence) : sortsBefore a b ∨ sortsBefore b a := by
  unfold sortsBefore
  rcases lt_trichotomy a.dueAtUtc b.dueAtUtc with h | h | h
  · exact .inl (.inl h)
  · rcases le_total a.occurrenceId b.occurrenceId with h' | h'
    · exact .inl (.inr ⟨h, h'⟩)
    · exact .inr (.inr ⟨h.symm, h'⟩)
  · exact .inr (.inl h)

theorem sortsBefore_trans (a b c : ScheduleOccurrence) (hab : sortsBefore a b)
    (hbc : sortsBefore b c) : sortsBefore a c := by
  rcases hab with hab | ⟨heq, hab⟩
  · rcases hbc with hbc | ⟨heq', -⟩
    · exact .inl (hab.trans hbc)
    · exact .inl (heq' ▸ hab)
  · rcases hbc with hbc | ⟨heq', hbc⟩
    · exact .inl (heq ▸ hbc)
    · exact .inr ⟨heq.trans heq', hab.trans hbc⟩

/-- The occurrences of a window are those of the dates that are due in it, in order.
SOURCE: macro_schedule.py:418-470 -/
theorem dueOccurrences_eq_ok (hreads : schedule.ReadsAs rt zone wallTime start ends)
    (hsteady : zone.Steady) {after through : ℤ} {occurrences : List ScheduleOccurrence}
    (h : schedule.dueOccurrences rt after through = .ok occurrences) :
    ∃ due : List (ℤ × ScheduleOccurrence), occurrences = due.map (·.2) ∧ due.Pairwise DueBefore ∧
      ∀ p, p ∈ due ↔ schedule.DueOn rt zone wallTime after through p.1 p.2 := by
  rw [dueOccurrences, hreads.zone, hreads.wallTime, hreads.start, hreads.ends] at h
  obtain ⟨_, ⟨⟩, h⟩ := bind_eq_ok.mp h
  obtain ⟨_, ⟨⟩, h⟩ := bind_eq_ok.mp h
  obtain ⟨_, ⟨⟩, h⟩ := bind_eq_ok.mp h
  obtain ⟨_, ⟨⟩, h⟩ := bind_eq_ok.mp h
  obtain ⟨localAfter, hlocalAfter, h⟩ := bind_eq_ok.mp h
  obtain ⟨firstLocal, hfirst, h⟩ := bind_eq_ok.mp h
  obtain ⟨localThrough, hlocalThrough, h⟩ := bind_eq_ok.mp h
  obtain ⟨lastLocal, hlast, h⟩ := bind_eq_ok.mp h
  obtain ⟨found, hfound, h⟩ := bind_eq_ok.mp h
  obtain rfl : found.insertionSort sortsBefore = occurrences := by
    simpa [pure, Except.pure] using h
  obtain ⟨rfl, -, -⟩ := datetime_eq_ok.mp hlocalAfter
  obtain ⟨rfl, -, -⟩ := datetime_eq_ok.mp hlocalThrough
  obtain ⟨rfl, -, -⟩ := date_eq_ok.mp hfirst
  obtain ⟨rfl, -, -⟩ := date_eq_ok.mp hlast
  obtain ⟨due, rfl, hsorted, hmem⟩ := dueLoop_eq_ok hfound
  refine ⟨due.insertionSort (fun p q => sortsBefore p.2 q.2), ?_, ?_, ?_⟩
  · exact (List.map_insertionSort (fun p q : ℤ × ScheduleOccurrence => sortsBefore p.2 q.2)
      sortsBefore (·.2) due (fun p _ q _ => Iff.rfl)).symm
  · exact StableSort.insertionSort_before (fun p q => sortsBefore_total p.2 q.2)
      (fun p q r => sortsBefore_trans p.2 q.2 r.2) hsorted
  · intro p
    rw [List.mem_insertionSort, hmem]
    refine ⟨fun hp => hp.2.2, fun hdue => ?_⟩
    have ⟨resolved, hon, hafter, hthrough, _⟩ := hdue
    obtain ⟨hlow, hhigh⟩ := hon.date_bounds hreads hsteady hafter hthrough
    exact ⟨hlow, by omega, hdue⟩

end WallClockSchedule

end PhiOS
