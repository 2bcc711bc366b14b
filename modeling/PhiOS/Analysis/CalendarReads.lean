import PhiOS.Analysis.CalendarOrder

/-!
# Printed instants are read back

`instantFromIso` reads the texts that `isoformat` prints in UTC, once `Z` has been replaced by the
offset, and finds the instant that was printed (`instantFromIso_utcIso`).
-/

set_option autoImplicit false

namespace PhiOS

namespace Calendar

open DecimalText

/-- The microseconds and the offset of UTC. -/
def microsFromIso (text : List Char) : Option ℤ :=
  match text with
  | ['+', '0', '0', ':', '0', '0'] => some 0
  | ['.', m₁, m₂, m₃, m₄, m₅, m₆, '+', '0', '0', ':', '0', '0'] =>
      (readDigits [m₁, m₂, m₃, m₄, m₅, m₆]).map (↑)
  | _ => none

/-- `datetime.fromisoformat` of a text that `isoformat` has printed in UTC. -/
def instantFromIso (text : List Char) : Option ℤ :=
  match dateFromIso (text.take 10), text[10]?, timeFromIso ((text.drop 11).take 8),
    microsFromIso (text.drop 19) with
  | some day, some 'T', some clock, some micros => some (day * dayMicros + clock + micros)
  | _, _, _, _ => none

/-! ## Digits -/

theorem readDigits_append_digit {digits : List Char} {n k : ℕ} (hn : readDigits digits = some n)
    (hk : k < 10) : readDigits (digits ++ [digit k]) = some (n * 10 + k) := by
  unfold readDigits at hn ⊢
  rw [List.foldl_append, hn]
  have hdigit : ∀ k < 10, (digit k).toNat = 48 + k := by decide
  simp only [List.foldl_cons, List.foldl_nil, Option.bind_some, hdigit k hk]
  rw [if_pos (by omega)]
  congr 1
  omega

theorem readDigits_numeral (width : ℕ) {n : ℕ} (h : n < 10 ^ width) :
    readDigits (numeral width n) = some n := by
  induction width generalizing n with
  | zero =>
      have hzero : n < 1 := h
      have hn : n = 0 := by omega
      rw [hn]
      rfl
  | succ width ih =>
      have hpower : 10 ^ (width + 1) = 10 * 10 ^ width := by ring
      have htens : n / 10 < 10 ^ width := by omega
      show readDigits (numeral width (n / 10) ++ [digit (n % 10)]) = some n
      rw [readDigits_append_digit (ih htens) (by omega)]
      congr 1
      omega

theorem numeral_four (n : ℕ) : numeral 4 n = [digit (n / 10 / 10 / 10 % 10), digit (n / 10 / 10 % 10),
    digit (n / 10 % 10), digit (n % 10)] := rfl

theorem numeral_two (n : ℕ) : numeral 2 n = [digit (n / 10 % 10), digit (n % 10)] := rfl

theorem numeral_six (n : ℕ) : numeral 6 n = [digit (n / 10 / 10 / 10 / 10 / 10 % 10),
    digit (n / 10 / 10 / 10 / 10 % 10), digit (n / 10 / 10 / 10 % 10), digit (n / 10 / 10 % 10),
    digit (n / 10 % 10), digit (n % 10)] := rfl

/-! ## Dates and times of day -/

theorem monthAndDay_spec {leap : Bool} {n : ℕ} (hn : n < 365 + if leap then 1 else 0) :
    1 ≤ (monthAndDay leap n).1 ∧ (monthAndDay leap n).1 ≤ 12 ∧ 1 ≤ (monthAndDay leap n).2 ∧
      (monthAndDay leap n).2 ≤ daysInMonth leap (monthAndDay leap n).1 ∧
      daysBeforeMonth leap (monthAndDay leap n).1 + (monthAndDay leap n).2 = n + 1 := by
  have hall : ∀ leap : Bool, ∀ n < 365 + (if leap then 1 else 0),
      1 ≤ (monthAndDay leap n).1 ∧ (monthAndDay leap n).1 ≤ 12 ∧ 1 ≤ (monthAndDay leap n).2 ∧
        (monthAndDay leap n).2 ≤ daysInMonth leap (monthAndDay leap n).1 ∧
        daysBeforeMonth leap (monthAndDay leap n).1 + (monthAndDay leap n).2 = n + 1 := by
    decide +kernel
  exact hall leap n hn

theorem dateFromIso_fields {year month day : ℕ} (hyear : 1 ≤ year) (hyears : year ≤ 9999)
    (hmonth : 1 ≤ month) (hmonths : month ≤ 12) (hday : 1 ≤ day)
    (hdays : day ≤ daysInMonth (isLeap year) month) (htwo : day < 100) :
    dateFromIso (numeral 4 year ++ '-' :: (numeral 2 month ++ '-' :: numeral 2 day)) =
      some ((daysBeforeYear year + daysBeforeMonth (isLeap year) month + day - 1 : ℕ) : ℤ) := by
  have hreadYear := readDigits_numeral 4 (by omega : year < 10 ^ 4)
  have hreadMonth := readDigits_numeral 2 (by omega : month < 10 ^ 2)
  have hreadDay := readDigits_numeral 2 (by omega : day < 10 ^ 2)
  rw [numeral_four] at hreadYear ⊢
  rw [numeral_two] at hreadMonth hreadDay
  rw [numeral_two, numeral_two]
  simp only [List.cons_append, List.nil_append, dateFromIso, hreadYear, hreadMonth, hreadDay]
  rw [if_pos ⟨hyear, hmonth, hmonths, hday, hdays⟩]

theorem dateFromIso_ymd {day : ℕ} (h : day ≤ 3652058) :
    dateFromIso (numeral 4 (ymd day).1 ++ '-' :: (numeral 2 (ymd day).2.1 ++ '-' ::
      numeral 2 (ymd day).2.2)) = some (day : ℤ) := by
  obtain ⟨hday, hyears, hyear, hlt⟩ := yearAndDay_spec h
  obtain ⟨hmonth, hmonths, hfirst, hdays, hsum⟩ := monthAndDay_spec hlt
  have hread := dateFromIso_fields hyear hyears hmonth hmonths hfirst hdays (monthAndDay_bounds hlt).2
  have htotal : daysBeforeYear (yearAndDay day).1 + daysBeforeMonth (isLeap (yearAndDay day).1)
      (monthAndDay (isLeap (yearAndDay day).1) (yearAndDay day).2).1 +
      (monthAndDay (isLeap (yearAndDay day).1) (yearAndDay day).2).2 - 1 = day := by
    omega
  rw [htotal] at hread
  exact hread

theorem timeFromIso_clock {second : ℕ} (h : second < 86400) :
    timeFromIso (numeral 2 (second / 3600) ++ ':' :: (numeral 2 (second / 60 % 60) ++ ':' ::
      numeral 2 (second % 60))) = some ((second : ℤ) * 1000000) := by
  have hreadHour := readDigits_numeral 2 (by omega : second / 3600 < 10 ^ 2)
  have hreadMinute := readDigits_numeral 2 (by omega : second / 60 % 60 < 10 ^ 2)
  have hreadSecond := readDigits_numeral 2 (by omega : second % 60 < 10 ^ 2)
  have hsum : (second / 3600 * 60 + second / 60 % 60) * 60 + second % 60 = second := by omega
  have hbounds : second / 3600 < 24 ∧ second / 60 % 60 < 60 ∧ second % 60 < 60 := by omega
  rw [numeral_two] at hreadHour hreadMinute hreadSecond
  rw [numeral_two, numeral_two, numeral_two]
  simp only [List.cons_append, List.nil_append, timeFromIso, hreadHour, hreadMinute, hreadSecond]
  rw [if_pos hbounds, hsum]

theorem microsFromIso_isoMicros {micros : ℕ} (h : micros < 1000000) :
    microsFromIso (isoMicros micros ['+', '0', '0', ':', '0', '0']) = some (micros : ℤ) := by
  unfold isoMicros
  by_cases hzero : micros = 0
  · rw [if_pos hzero, hzero]
    rfl
  · rw [if_neg hzero]
    have hread := readDigits_numeral 6 (by omega : micros < 10 ^ 6)
    rw [numeral_six] at hread ⊢
    simp only [List.cons_append, List.nil_append, microsFromIso, hread, Option.map_some]

/-! ## Instants -/

theorem isoNaive_append (t : ℤ) (rest : List Char) : isoNaive t rest = isoNaive t [] ++ rest := by
  have hmicros : ∀ micros, isoMicros micros rest = isoMicros micros [] ++ rest := by
    intro micros
    unfold isoMicros
    split <;> simp
  simp only [isoNaive, List.append_assoc, List.cons_append, hmicros]

/-- It has no `Z` before it. -/
theorem notMem_isoNaive (t : ℤ) : 'Z' ∉ isoNaive t [] := by
  have hdigit : ∀ k < 10, digit k ≠ 'Z' := by decide
  have hnumeral : ∀ width n, 'Z' ∉ numeral width n := by
    intro width
    induction width with
    | zero => exact fun n => List.not_mem_nil
    | succ width ih =>
        intro n hmem
        rcases List.mem_append.mp hmem with hold | hlast
        · exact ih _ hold
        · exact hdigit (n % 10) (by omega) (List.mem_singleton.mp hlast).symm
  have hmicros : ∀ micros, 'Z' ∉ isoMicros micros [] := by
    intro micros
    unfold isoMicros
    split
    · exact List.not_mem_nil
    · simp [hnumeral]
  simp [isoNaive, hnumeral, hmicros]

/-- The text of an instant with the offset written out. -/
theorem replaceZulu_utcIso (t : ℤ) :
    replaceZulu (utcIso t) = String.ofList (isoNaive t ['+', '0', '0', ':', '0', '0']) := by
  have hsame : ∀ text : List Char, 'Z' ∉ text →
      (text.flatMap fun c => if c = 'Z' then "+00:00".toList else [c]) = text := by
    intro text
    induction text with
    | nil => exact fun _ => rfl
    | cons c text ih =>
        intro hnot
        rw [List.mem_cons, not_or] at hnot
        rw [List.flatMap_cons, ih hnot.2, if_neg (Ne.symm hnot.1)]
        rfl
  unfold replaceZulu utcIso
  rw [isoNaive_append t ['Z'], isoNaive_append t ['+', '0', '0', ':', '0', '0']]
  simp only [String.toList_ofList]
  rw [List.flatMap_append, hsame _ (notMem_isoNaive t)]
  rfl

/-- A printed instant is read as the instant. -/
theorem instantFromIso_utcIso {t : ℤ} (hlow : 0 ≤ t) (hhigh : t < (maxDay + 1) * dayMicros) :
    instantFromIso (replaceZulu (utcIso t)).toList = some t := by
  rw [replaceZulu_utcIso, String.toList_ofList]
  obtain ⟨day, hday, hdayLe⟩ : ∃ day, day = (dayOf t).toNat ∧ day ≤ 3652058 :=
    ⟨_, rfl, by unfold dayOf; unfold maxDay dayMicros at *; omega⟩
  obtain ⟨micros, hmicros, hmicrosLt⟩ : ∃ micros, micros = (t % dayMicros).toNat ∧
      micros < 86400000000 := ⟨_, rfl, by unfold dayMicros; omega⟩
  have htext : isoNaive t ['+', '0', '0', ':', '0', '0'] =
      (numeral 4 (ymd day).1 ++ '-' :: (numeral 2 (ymd day).2.1 ++ '-' :: numeral 2 (ymd day).2.2)) ++
        ('T' :: ((numeral 2 (micros / 1000000 / 3600) ++ ':' ::
          (numeral 2 (micros / 1000000 / 60 % 60) ++ ':' :: numeral 2 (micros / 1000000 % 60))) ++
          isoMicros (micros % 1000000) ['+', '0', '0', ':', '0', '0'])) := by
    simp only [isoNaive, ← hday, ← hmicros, List.append_assoc, List.cons_append]
  obtain ⟨date, hdate⟩ : ∃ date, date = numeral 4 (ymd day).1 ++ '-' :: (numeral 2 (ymd day).2.1 ++
      '-' :: numeral 2 (ymd day).2.2) := ⟨_, rfl⟩
  obtain ⟨clock, hclock⟩ : ∃ clock, clock = numeral 2 (micros / 1000000 / 3600) ++ ':' ::
      (numeral 2 (micros / 1000000 / 60 % 60) ++ ':' :: numeral 2 (micros / 1000000 % 60)) :=
    ⟨_, rfl⟩
  have hdateLength : date.length = 10 := by rw [hdate]; simp
  have hclockLength : clock.length = 8 := by rw [hclock]; simp
  have hreadDate : dateFromIso date = some (day : ℤ) := by rw [hdate]; exact dateFromIso_ymd hdayLe
  have hreadClock : timeFromIso clock = some (((micros / 1000000 : ℕ) : ℤ) * 1000000) := by
    rw [hclock]
    exact timeFromIso_clock (by omega)
  have hreadMicros := microsFromIso_isoMicros (by omega : micros % 1000000 < 1000000)
  rw [htext, ← hdate, ← hclock]
  generalize isoMicros (micros % 1000000) ['+', '0', '0', ':', '0', '0'] = rest at hreadMicros
  have htake : (date ++ 'T' :: (clock ++ rest)).take 10 = date := by
    rw [List.take_append_of_le_length hdateLength.ge, ← hdateLength, List.take_length]
  have hseparator : (date ++ 'T' :: (clock ++ rest))[10]? = some 'T' := by
    rw [List.getElem?_append_right hdateLength.le, hdateLength]
    rfl
  have hdrop : (date ++ 'T' :: (clock ++ rest)).drop 11 = clock ++ rest := by
    rw [show 11 = date.length + 1 by omega, List.drop_length_add_append]
    rfl
  have hclockTake : (clock ++ rest).take 8 = clock := by
    rw [List.take_append_of_le_length hclockLength.ge, ← hclockLength, List.take_length]
  have hrest : (date ++ 'T' :: (clock ++ rest)).drop 19 = rest := by
    rw [show 19 = 11 + 8 by rfl, ← List.drop_drop, hdrop, ← hclockLength, List.drop_left]
  unfold instantFromIso
  rw [htake, hseparator, hdrop, hclockTake, hrest, hreadDate, hreadClock, hreadMicros]
  show some _ = some _
  congr 1
  have hdayEq : (day : ℤ) = t / dayMicros := by
    rw [hday]
    unfold dayOf
    unfold dayMicros at *
    omega
  rw [hdayEq]
  unfold dayMicros at *
  omega

end Calendar

end PhiOS
