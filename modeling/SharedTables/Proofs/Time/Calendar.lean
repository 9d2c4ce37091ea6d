import Mathlib.Logic.Function.Iterate
import SharedTables.Time.Calendar

/-! The numbers of days. They count the days of the calendar: one more for each
day that follows, from the first of January of the year one. So the number of a
date is pinned down by the lengths of the months and the rule for leap years. -/
namespace SharedTables

namespace Calendar

theorem daysInMonth_pos (year month : Nat) : 0 < daysInMonth year month := by
  unfold daysInMonth
  split <;> split <;> decide

theorem daysBeforeMonth_succ {year month : Nat} (counted : 1 ≤ month) :
    daysBeforeMonth year (month + 1) = daysBeforeMonth year month + daysInMonth year month := by
  obtain ⟨m, rfl⟩ := Nat.exists_eq_add_of_le' counted
  simp [daysBeforeMonth, List.range_succ]

theorem isLeap_iff {year : Nat} : isLeap year = true ↔ 4 ∣ year ∧ (100 ∣ year → 400 ∣ year) := by
  simp [isLeap, Nat.dvd_iff_mod_eq_zero, imp_iff_not_or]

/-- Each division counts the years that it leaves nothing of. -/
theorem daysBeforeYear_next {year : Nat} (counted : 1 ≤ year) :
    daysBeforeYear (year + 1) = daysBeforeYear year + if isLeap year then 366 else 365 := by
  obtain ⟨past, rfl⟩ := Nat.exists_eq_add_of_le' counted
  have fours : 100 ∣ past + 1 → 4 ∣ past + 1 := Nat.dvd_trans (by decide)
  have hundreds : 400 ∣ past + 1 → 100 ∣ past + 1 := Nat.dvd_trans (by decide)
  have fewer : past / 100 ≤ past / 4 := Nat.div_le_div_left (by decide) (by decide)
  simp only [daysBeforeYear, Nat.add_sub_cancel, Nat.succ_div, isLeap_iff]
  by_cases four : 4 ∣ past + 1
  · by_cases hundred : 100 ∣ past + 1
    · by_cases fourHundred : 400 ∣ past + 1
      · simp only [four, hundred, fourHundred, ↓reduceIte, and_self, imp_self]
        omega
      · simp only [four, hundred, fourHundred, ↓reduceIte, and_false, imp_false, not_true_eq_false]
        omega
    · simp only [four, hundred, mt hundreds hundred, ↓reduceIte, and_self, imp_self]
      omega
  · simp only [four, mt fours four, mt hundreds (mt fours four), ↓reduceIte, false_and]
    omega

/-- A year has twelve months, and the next year begins after them. -/
theorem daysBeforeYear_succ {year : Nat} (counted : 1 ≤ year) :
    daysBeforeYear (year + 1) = daysBeforeYear year + daysBeforeMonth year 13 := by
  rw [daysBeforeYear_next counted]
  cases leap : isLeap year <;> simp [daysBeforeMonth, daysInMonth, leap, List.range_succ]

end Calendar

namespace Date
open Calendar

variable {date start : Date}

/-- Whether a date stands in the calendar, whose years go on without end. -/
structure Proper (date : Date) : Prop where
  year : 1 ≤ date.year
  month : 1 ≤ date.month ∧ date.month ≤ 12
  day : 1 ≤ date.day ∧ date.day ≤ daysInMonth date.year date.month

theorem Valid.proper (valid : date.Valid) : date.Proper := by
  obtain ⟨year, -, month, month', day, day'⟩ := valid
  exact ⟨year, ⟨month, month'⟩, day, day'⟩

/-- The first day of the calendar. -/
def first : Date := ⟨1, 1, 1⟩

/-- The day after a date. -/
def next (date : Date) : Date :=
  if date.day < daysInMonth date.year date.month then ⟨date.year, date.month, date.day + 1⟩
  else if date.month < 12 then ⟨date.year, date.month + 1, 1⟩
  else ⟨date.year + 1, 1, 1⟩

theorem Proper.next (proper : date.Proper) : date.next.Proper := by
  obtain ⟨year, ⟨month, month'⟩, day, day'⟩ := proper
  unfold Date.next
  split
  · exact ⟨year, ⟨month, month'⟩, by simp, by simpa⟩
  · split
    · rename_i early
      exact ⟨year, ⟨by simp, Nat.succ_le_of_lt early⟩, by simp, daysInMonth_pos _ _⟩
    · exact ⟨by simp, by simp, by simp, daysInMonth_pos _ _⟩

/-- The number of a day is followed by the number of the next day, also where a
month or a year ends. -/
theorem number_next (proper : date.Proper) : date.next.number = date.number + 1 := by
  obtain ⟨year, ⟨month, month'⟩, day, day'⟩ := proper
  unfold Date.next number
  split
  · simp only
    omega
  · split
    · simp only [daysBeforeMonth_succ month]
      omega
    · have december : date.month = 12 := by omega
      have start : daysBeforeMonth (date.year + 1) 1 = 0 := rfl
      have whole : daysBeforeMonth date.year 13 = daysBeforeMonth date.year 12 + daysInMonth date.year 12 :=
        daysBeforeMonth_succ (by decide)
      simp only [daysBeforeYear_succ year, start, whole, december] at *
      omega

/-- Every date but the first follows another. -/
theorem Proper.exists_prior (proper : date.Proper) (later : date ≠ first) :
    ∃ prior : Date, prior.Proper ∧ prior.next = date := by
  obtain ⟨year, month, day⟩ := date
  obtain ⟨counted, ⟨begun, ended⟩, opened, closed⟩ := proper
  simp only at counted begun ended opened closed
  by_cases early : day = 1
  · subst early
    by_cases january : month = 1
    · subst january
      have older : year ≠ 1 := fun same => later (by rw [same]; rfl)
      obtain ⟨past, rfl⟩ := Nat.exists_eq_add_of_le' counted
      refine ⟨⟨past, 12, 31⟩, ⟨by simp only; omega, by simp, by simp, by simp [daysInMonth]⟩, ?_⟩
      simp [Date.next, daysInMonth]
    · obtain ⟨m, rfl⟩ := Nat.exists_eq_add_of_le' begun
      refine ⟨⟨year, m, daysInMonth year m⟩, ⟨counted, ⟨by simp only; omega, by simp only; omega⟩, daysInMonth_pos _ _,
        Nat.le_refl _⟩, ?_⟩
      simp only [Date.next, Nat.lt_irrefl, ↓reduceIte, show m < 12 by omega]
  · obtain ⟨d, rfl⟩ := Nat.exists_eq_add_of_le' opened
    refine ⟨⟨year, month, d⟩, ⟨counted, ⟨begun, ended⟩, by simp only; omega, by simp only; omega⟩, ?_⟩
    simp only [Date.next, show d < daysInMonth year month by omega, ↓reduceIte]

theorem Proper.number_pos (proper : date.Proper) : 1 ≤ date.number :=
  Nat.le_trans proper.day.1 (Nat.le_add_left _ _)

theorem number_iterate_next (proper : start.Proper) (n : Nat) : (next^[n] start).number = start.number + n := by
  induction n generalizing start with
  | zero => rfl
  | succ n ih =>
    rw [Function.iterate_succ_apply, ih proper.next, number_next proper]
    omega

/-- The calendar comes to every date, after as many days as its number says. -/
theorem iterate_next_first (proper : date.Proper) {n : Nat} (numbered : date.number = n + 1) :
    next^[n] first = date := by
  induction n generalizing date with
  | zero =>
    by_contra later
    obtain ⟨prior, proper', rfl⟩ := proper.exists_prior (Ne.symm later)
    have counted := proper'.number_pos
    rw [number_next proper'] at numbered
    omega
  | succ n ih =>
    have later : date ≠ first := by
      rintro rfl
      exact absurd (Nat.succ.inj numbered) (Nat.succ_ne_zero n).symm
    obtain ⟨prior, proper', rfl⟩ := proper.exists_prior later
    rw [number_next proper'] at numbered
    rw [Function.iterate_succ_apply', ih proper' (Nat.succ.inj numbered)]

/-- Some days after a date comes the date whose number is so much greater. -/
theorem iterate_next_eq_iff (began : start.Proper) (proper : date.Proper) {n : Nat} :
    next^[n] start = date ↔ date.number = start.number + n := by
  constructor
  · rintro rfl
    exact number_iterate_next began n
  · intro later
    obtain ⟨k, numbered⟩ := Nat.exists_eq_add_of_le' began.number_pos
    rw [← iterate_next_first began numbered, ← Function.iterate_add_apply]
    exact iterate_next_first proper (by omega)

/-- Whether a date comes so many days after another; with a negative number it
comes before the other. -/
def Apart (start date : Date) (days : Int) : Prop :=
  ∃ n : Nat, (days = n ∧ next^[n] start = date) ∨ (days = -n ∧ next^[n] date = start)

/-- The number of days from a date to another, by their numbers. -/
def daysTo (start date : Date) : Int := date.number - start.number

/-- The numbers of two dates tell how far they are apart. -/
theorem apart_iff (began : start.Proper) (proper : date.Proper) {days : Int} :
    start.Apart date days ↔ days = start.daysTo date := by
  unfold Apart daysTo
  simp only [iterate_next_eq_iff began proper, iterate_next_eq_iff proper began]
  constructor
  · rintro ⟨n, ⟨rfl, later⟩ | ⟨rfl, earlier⟩⟩ <;> omega
  · rintro rfl
    by_cases later : start.number ≤ date.number
    · exact ⟨date.number - start.number, .inl (by omega)⟩
    · exact ⟨start.number - date.number, .inr (by omega)⟩

end Date
end SharedTables
