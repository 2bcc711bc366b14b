import PhiOS.Model.Calendar

/-!
# The texts of instants are in the order of the instants

`_utc_iso` prints a microsecond only where there is one, so instants on whole seconds have texts of
one shape, whose fields are in the order of the instants.
-/

set_option autoImplicit false

namespace PhiOS

namespace Calendar

open DecimalText

/-! ## Years -/

theorem daysBeforeYear_cycles {a b c d : ℕ} (hb : b < 4) (hc : c < 25) (hd : d < 4) :
    daysBeforeYear (400 * a + 100 * b + 4 * c + d + 1) =
      146097 * a + 36524 * b + 1461 * c + 365 * d := by
  have hyear : 400 * a + 100 * b + 4 * c + d + 1 - 1 = 400 * a + 100 * b + 4 * c + d := by omega
  have hfour : (400 * a + 100 * b + 4 * c + d) / 4 = 100 * a + 25 * b + c := by omega
  have hhundred : (400 * a + 100 * b + 4 * c + d) / 100 = 4 * a + b := by omega
  have hcentury : (400 * a + 100 * b + 4 * c + d) / 400 = a := by omega
  rw [daysBeforeYear, hyear, hfour, hhundred, hcentury]
  omega

/-- A day has a year, of at most 366 days, and a number in it. -/
theorem yearAndDay_spec {day : ℕ} (h : day ≤ 3652058) :
    daysBeforeYear (yearAndDay day).1 + (yearAndDay day).2 = day ∧ (yearAndDay day).1 ≤ 9999 ∧
      1 ≤ (yearAndDay day).1 ∧ (yearAndDay day).2 < 365 + if isLeap (yearAndDay day).1 then 1 else 0 := by
  obtain ⟨a, ha⟩ : ∃ a, a = day / 146097 := ⟨_, rfl⟩
  obtain ⟨b, hb⟩ : ∃ b, b = day % 146097 / 36524 := ⟨_, rfl⟩
  obtain ⟨c, hc⟩ : ∃ c, c = day % 146097 % 36524 / 1461 := ⟨_, rfl⟩
  obtain ⟨d, hd⟩ : ∃ d, d = day % 146097 % 36524 % 1461 / 365 := ⟨_, rfl⟩
  obtain ⟨r, hr⟩ : ∃ r, r = day % 146097 % 36524 % 1461 % 365 := ⟨_, rfl⟩
  have hday : day = 146097 * a + 36524 * b + 1461 * c + 365 * d + r := by omega
  have hb₄ : b ≤ 4 := by omega
  have hc₂₅ : c < 25 := by omega
  have hd₄ : d ≤ 4 := by omega
  have hr₃₆₅ : r < 365 := by omega
  have heq : yearAndDay day = if d = 4 ∨ b = 4 then (400 * a + 100 * b + 4 * c + d, 365)
      else (400 * a + 100 * b + 4 * c + d + 1, r) := by
    have hyear : a * 400 + b * 100 + c * 4 + d = 400 * a + 100 * b + 4 * c + d := by ring
    simp only [yearAndDay, ← ha, ← hb, ← hc, ← hd, ← hr, hyear, Nat.add_sub_cancel]
  rw [heq]
  by_cases hlast : d = 4 ∨ b = 4
  · -- the last day of a leap year
    rw [if_pos hlast]
    have hsplit : (b = 4 ∧ c = 0 ∧ d = 0 ∧ r = 0) ∨ (b < 4 ∧ c < 24 ∧ d = 4 ∧ r = 0) := by omega
    rcases hsplit with ⟨rfl, rfl, rfl, rfl⟩ | ⟨hb', hc', rfl, rfl⟩
    · have hcycles := daysBeforeYear_cycles (a := a) (b := 3) (c := 24) (d := 3) (by omega)
        (by omega) (by omega)
      have hyear : 400 * a + 100 * 4 + 4 * 0 + 0 = 400 * a + 100 * 3 + 4 * 24 + 3 + 1 := by omega
      have hleap : isLeap (400 * a + 100 * 4 + 4 * 0 + 0) = true := by simp [isLeap]; omega
      refine ⟨?_, by omega, by simp only; omega, by simp [hleap]⟩
      simp only
      rw [hyear, hcycles]
      omega
    · have hcycles := daysBeforeYear_cycles (a := a) (b := b) (c := c) (d := 3) hb' (by omega)
        (by omega)
      have hyear : 400 * a + 100 * b + 4 * c + 4 = 400 * a + 100 * b + 4 * c + 3 + 1 := by omega
      have hleap : isLeap (400 * a + 100 * b + 4 * c + 4) = true := by simp [isLeap]; omega
      refine ⟨?_, by omega, by simp only; omega, by simp [hleap]⟩
      simp only
      rw [hyear, hcycles]
      omega
  · rw [if_neg hlast]
    have hcycles := daysBeforeYear_cycles (a := a) (b := b) (c := c) (d := d) (by omega) hc₂₅
      (by omega)
    refine ⟨by simp only [hcycles]; omega, by simp only; omega, by simp only; omega, ?_⟩
    simp only
    omega

/-- The next year starts after the last day of a year. -/
theorem daysBeforeYear_succ {y : ℕ} (hy : 1 ≤ y) :
    daysBeforeYear (y + 1) = daysBeforeYear y + 365 + if isLeap y then 1 else 0 := by
  obtain ⟨n, rfl⟩ : ∃ n, y = n + 1 := ⟨y - 1, by omega⟩
  simp only [daysBeforeYear, Nat.add_sub_cancel, Nat.succ_div, isLeap, Nat.dvd_iff_mod_eq_zero,
    decide_not]
  have hle : n / 100 ≤ n / 4 := by omega
  have hhundred : (n + 1) % 100 = 0 → (n + 1) % 4 = 0 := by omega
  have hcentury : (n + 1) % 400 = 0 → (n + 1) % 100 = 0 := by omega
  by_cases h₄ : (n + 1) % 4 = 0
  · by_cases h₁₀₀ : (n + 1) % 100 = 0
    · by_cases h₄₀₀ : (n + 1) % 400 = 0
      · simp only [h₄, h₁₀₀, h₄₀₀, if_true, decide_true, Bool.not_true, Bool.or_true, Bool.and_true]
        omega
      · simp only [h₄, h₁₀₀, h₄₀₀, if_true, decide_true, decide_false, Bool.not_true, Bool.or_false,
          Bool.and_false, Bool.false_eq_true, if_false]
        omega
    · have h₄₀₀ : ¬ (n + 1) % 400 = 0 := fun h => h₁₀₀ (hcentury h)
      simp only [h₄, h₁₀₀, h₄₀₀, if_true, if_false, decide_true, decide_false, Bool.not_false,
        Bool.true_or, Bool.and_true]
      omega
  · have h₁₀₀ : ¬ (n + 1) % 100 = 0 := fun h => h₄ (hhundred h)
    have h₄₀₀ : ¬ (n + 1) % 400 = 0 := fun h => h₁₀₀ (hcentury h)
    simp only [h₄, h₁₀₀, h₄₀₀, if_false, decide_false, Bool.false_and, Bool.false_eq_true]
    omega

theorem daysBeforeYear_le {y z : ℕ} (hy : 1 ≤ y) (h : y < z) :
    daysBeforeYear y + 365 + (if isLeap y then 1 else 0) ≤ daysBeforeYear z := by
  induction z, h using Nat.le_induction with
  | base => rw [daysBeforeYear_succ hy]
  | succ z hz ih =>
      have hnext := daysBeforeYear_succ (y := z) (by omega)
      omega

/-! ## The order of the fields -/

theorem monthAndDay_lt {leap : Bool} {m n : ℕ} (hn : n < 365 + if leap then 1 else 0) (h : m < n) :
    (monthAndDay leap m).1 * 100 + (monthAndDay leap m).2 <
      (monthAndDay leap n).1 * 100 + (monthAndDay leap n).2 := by
  have hsteps : ∀ leap : Bool, ∀ n < 364 + (if leap then 1 else 0),
      (monthAndDay leap n).1 * 100 + (monthAndDay leap n).2 <
        (monthAndDay leap (n + 1)).1 * 100 + (monthAndDay leap (n + 1)).2 := by
    decide +kernel
  induction n, h using Nat.le_induction with
  | base => exact hsteps leap m (by omega)
  | succ n hmn ih => exact (ih (by omega)).trans (hsteps leap n (by omega))

theorem monthAndDay_bounds {leap : Bool} {n : ℕ} (hn : n < 365 + if leap then 1 else 0) :
    (monthAndDay leap n).1 < 100 ∧ (monthAndDay leap n).2 < 100 := by
  have hall : ∀ leap : Bool, ∀ n < 365 + (if leap then 1 else 0),
      (monthAndDay leap n).1 < 100 ∧ (monthAndDay leap n).2 < 100 := by
    decide +kernel
  exact hall leap n hn

/-- A later date has a later year, or a later month of the year, or a later day of the
month. -/
theorem ymd_lt {m n : ℕ} (hn : n ≤ 3652058) (h : m < n) :
    (ymd m).1 < (ymd n).1 ∨ (ymd m).1 = (ymd n).1 ∧
      ((ymd m).2.1 < (ymd n).2.1 ∨ (ymd m).2.1 = (ymd n).2.1 ∧ (ymd m).2.2 < (ymd n).2.2) := by
  obtain ⟨hm, -, -, hmlt⟩ := @yearAndDay_spec m (by omega)
  obtain ⟨hn', -, hyearn, hnlt⟩ := yearAndDay_spec hn
  simp only [ymd]
  rcases lt_trichotomy (yearAndDay m).1 (yearAndDay n).1 with hyear | hyear | hyear
  · exact .inl hyear
  · rw [hyear] at hm hmlt ⊢
    have hday : (yearAndDay m).2 < (yearAndDay n).2 := by omega
    have hmonth := monthAndDay_lt hnlt hday
    have hbounds := monthAndDay_bounds hmlt
    have hbounds' := monthAndDay_bounds hnlt
    omega
  · have hyears := daysBeforeYear_le hyearn hyear
    omega

/-! ## Texts -/

/-- The date and the seconds of a time decide, and after them its microseconds. -/
theorem isoNaive_lt {s t : ℤ} {rest rest' : List Char} (hs : 0 ≤ s)
    (ht : t < (maxDay + 1) * dayMicros)
    (h : s / 1000000 < t / 1000000 ∨ s / 1000000 = t / 1000000 ∧
      isoMicros (s % 1000000).toNat rest < isoMicros (t % 1000000).toNat rest') :
    isoNaive s rest < isoNaive t rest' := by
  have hmicros : ∀ u : ℤ, (u % dayMicros).toNat % 1000000 = (u % 1000000).toNat := by
    intro u
    unfold dayMicros
    omega
  simp only [isoNaive, hmicros]
  have hlast : (dayOf t).toNat ≤ 3652058 := by
    simp only [dayOf, dayMicros, maxDay] at ht ⊢
    omega
  obtain ⟨-, hyear, -, hlt⟩ := yearAndDay_spec hlast
  have hbounds := monthAndDay_bounds hlt
  have hyears : (ymd (dayOf t).toNat).1 < 10 ^ 4 := by
    show (yearAndDay _).1 < 10 ^ 4
    omega
  rcases h with hearlier | ⟨hsame, hrest⟩
  · have hday : (dayOf s).toNat < (dayOf t).toNat ∨ dayOf s = dayOf t ∧
        (s % dayMicros).toNat / 1000000 < (t % dayMicros).toNat / 1000000 := by
      simp only [dayOf, dayMicros]
      omega
    apply field_lt_field hyears
    rcases hday with hday | ⟨hday, hclock⟩
    · rcases ymd_lt hlast hday with hlt | ⟨heq, hlt | ⟨heq', hlt⟩⟩
      · exact .inl hlt
      · exact .inr ⟨heq, separator_lt (field_lt_field hbounds.1 (.inl hlt))⟩
      · refine .inr ⟨heq, separator_lt (field_lt_field hbounds.1 (.inr ⟨heq', ?_⟩))⟩
        exact separator_lt (field_lt_field hbounds.2 (.inl hlt))
    · -- the same date: the time of day decides
      rw [hday]
      refine .inr ⟨rfl, separator_lt (append_lt_append_of_rest (separator_lt
        (append_lt_append_of_rest (separator_lt ?_))))⟩
      generalize (s % dayMicros).toNat / 1000000 = m at hclock
      obtain ⟨n, hn, hbound⟩ : ∃ n, n = (t % dayMicros).toNat / 1000000 ∧ n < 86400 :=
        ⟨_, rfl, by unfold dayMicros; omega⟩
      rw [← hn] at hclock ⊢
      have hfields : m / 3600 < n / 3600 ∨ m / 3600 = n / 3600 ∧
          (m / 60 % 60 < n / 60 % 60 ∨ m / 60 % 60 = n / 60 % 60 ∧ m % 60 < n % 60) := by
        omega
      apply field_lt_field (by omega)
      rcases hfields with hlt | ⟨heq, hlt | ⟨heq', hlt⟩⟩
      · exact .inl hlt
      · exact .inr ⟨heq, separator_lt (field_lt_field (by omega) (.inl hlt))⟩
      · refine .inr ⟨heq, separator_lt (field_lt_field (by omega) (.inr ⟨heq', ?_⟩))⟩
        exact separator_lt (field_lt_field (by omega) (.inl hlt))
  · have hday : dayOf s = dayOf t := by
      simp only [dayOf, dayMicros]
      omega
    have hclock : (s % dayMicros).toNat / 1000000 = (t % dayMicros).toNat / 1000000 := by
      unfold dayMicros
      omega
    rw [hday, hclock]
    exact append_lt_append_of_rest (separator_lt (append_lt_append_of_rest (separator_lt
      (append_lt_append_of_rest (separator_lt (append_lt_append_of_rest (separator_lt
        (append_lt_append_of_rest (separator_lt (append_lt_append_of_rest hrest))))))))))

theorem utcIso_lt {s t : ℤ} (hs : 0 ≤ s) (ht : t < (maxDay + 1) * dayMicros)
    (hsecond : s % 1000000 = 0) (hsecond' : t % 1000000 = 0) (h : s < t) : utcIso s < utcIso t := by
  rw [String.lt_iff_toList_lt]
  simp only [utcIso, String.toList_ofList]
  exact isoNaive_lt hs ht (.inl (by omega))

/-- No microseconds come before some, and fewer before more: the sign of the offset comes
before the point, and the point before the digits. -/
theorem isoMicros_lt {m n : ℕ} {rest : List Char} (hn : n < 1000000) (h : m < n) :
    isoMicros m ('+' :: rest) < isoMicros n ('+' :: rest) := by
  have hlater : n ≠ 0 := by omega
  unfold isoMicros
  rw [if_neg hlater]
  by_cases hzero : m = 0
  · rw [if_pos hzero]
    exact List.cons_lt_cons_iff.mpr (.inl (by decide))
  · rw [if_neg hzero]
    exact separator_lt (field_lt_field (by omega) (.inl h))

/-- The texts of instants in UTC are in the order of the instants, with microseconds or
without them. -/
theorem isoAware_lt {s t : ℤ} (hs : 0 ≤ s) (ht : t < (maxDay + 1) * dayMicros) (h : s < t) :
    isoAware s 0 < isoAware t 0 := by
  rw [String.lt_iff_toList_lt]
  simp only [isoAware, String.toList_ofList]
  apply isoNaive_lt hs ht
  by_cases hsecond : s / 1000000 < t / 1000000
  · exact .inl hsecond
  · have hmicros : (s % 1000000).toNat < (t % 1000000).toNat := by omega
    exact .inr ⟨by omega, isoMicros_lt (by omega) hmicros⟩

theorem isoAware_lt_iff {s t : ℤ} (hs : 0 ≤ s) (hs' : s < (maxDay + 1) * dayMicros) (ht : 0 ≤ t)
    (ht' : t < (maxDay + 1) * dayMicros) : isoAware s 0 < isoAware t 0 ↔ s < t := by
  constructor
  · intro hlt
    by_contra hle
    rcases lt_or_eq_of_le (not_lt.mp hle) with hafter | hsame
    · exact lt_asymm hlt (isoAware_lt ht hs' hafter)
    · rw [hsame] at hlt
      exact lt_irrefl _ hlt
  · exact isoAware_lt hs ht'

end Calendar

end PhiOS
