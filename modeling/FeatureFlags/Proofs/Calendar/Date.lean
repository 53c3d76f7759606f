import FeatureFlags.Calendar.Date
import Mathlib.Tactic.IntervalCases

/-!
# Days and dates

Every number of a day is the number of its date (`toDays_ofDays`), and that date is in the calendar
if the number is (`isValid_ofDays`).

A day is taken apart into an era, a century, a cycle of four years, a year and a day of the year
(`EraDay`).  In these parts all divisions by lengths of years come out, and what is left is linear.
-/

namespace FeatureFlags.Calendar

/-- A day of an era of 400 years, by the century `c`, the cycle of four years `q` in it, the year
`k` in that and the day `s` of the cycle.  Only the last year of a cycle has 366 days, but the last
cycle of a century has one day less, unless the century is the last. -/
structure EraDay (dayOfEra c q k s : Int) : Prop where
  day : dayOfEra = 36524 * c + 1461 * q + s
  century : 0 ≤ c ∧ c ≤ 3
  cycle : 0 ≤ q ∧ q ≤ 24
  year : 0 ≤ k ∧ k ≤ 3
  day_nonneg : 365 * k ≤ s
  day_le : s ≤ 365 * k + 364 ∨ k = 3 ∧ s = 1460
  last : s = 1460 → q = 24 → c = 3

theorem exists_eraDay (dayOfEra : Int) (h₀ : 0 ≤ dayOfEra) (h₁ : dayOfEra ≤ 146096) :
    ∃ c q k s, EraDay dayOfEra c q k s := by
  obtain ⟨c, hc⟩ : ∃ c, c = dayOfEra / 36524 - dayOfEra / 146096 := ⟨_, rfl⟩
  obtain ⟨q, hq⟩ : ∃ q, q = (dayOfEra - 36524 * c) / 1461 := ⟨_, rfl⟩
  obtain ⟨s, hs⟩ : ∃ s, s = dayOfEra - 36524 * c - 1461 * q := ⟨_, rfl⟩
  obtain ⟨k, hk⟩ : ∃ k, k = s / 365 - s / 1460 := ⟨_, rfl⟩
  have hc₀ : 0 ≤ c ∧ c ≤ 3 := by omega
  have hr : 0 ≤ dayOfEra - 36524 * c ∧ dayOfEra - 36524 * c ≤ 36524 ∧
      (dayOfEra - 36524 * c = 36524 → c = 3) := by omega
  exact ⟨c, q, k, s, by omega, hc₀, by omega, by omega, by omega, by omega, by omega⟩

theorem EraDay.yearOfEra {dayOfEra c q k s : Int} (h : EraDay dayOfEra c q k s) :
    (dayOfEra - dayOfEra / 1460 + dayOfEra / 36524 - dayOfEra / 146096) / 365 =
      100 * c + 4 * q + k := by
  obtain ⟨hday, hc, hq, hk, hs₀, hs₁, hlast⟩ := h
  have hr : 1461 * q + s ≤ 36523 ∨ c = 3 ∧ 1461 * q + s = 36524 := by omega
  have h₁ : dayOfEra / 36524 - dayOfEra / 146096 = c := by
    rcases hr with hr | ⟨rfl, hr⟩
    · have h : dayOfEra / 36524 = c := by omega
      have h' : dayOfEra / 146096 = 0 := by omega
      omega
    · omega
  have h₂ : dayOfEra / 1460 = 25 * c + q + (24 * c + q + s) / 1460 := by omega
  have h₃ : (24 * c + q + s) / 1460 = 0 ∨ (24 * c + q + s) / 1460 = 1 ∧ 1364 ≤ s := by omega
  omega


namespace Date

/-- The date of a day by its parts. -/
theorem ofDays_eq {n era c q k s m : Int}
    (hn : n + 719468 = era * 146097 + (36524 * c + 1461 * q + s))
    (h : EraDay (36524 * c + 1461 * q + s) c q k s) (hm : m = (5 * (s - 365 * k) + 2) / 153) :
    ofDays n = {
      year := 400 * era + 100 * c + 4 * q + k + (if m < 10 then 0 else 1)
      month := (if m < 10 then m + 3 else m - 9).toNat
      day := (s - 365 * k - (153 * m + 2) / 5 + 1).toNat } := by
  obtain ⟨-, hc, hq, hk, hs₀, hs₁, hlast⟩ := id h
  have hera : (n + 719468) / 146097 = era := by omega
  have hday : n + 719468 - era * 146097 = 36524 * c + 1461 * q + s := by omega
  have hfour : (100 * c + 4 * q + k) / 4 = 25 * c + q := by omega
  have hhundred : (100 * c + 4 * q + k) / 100 = c := by omega
  have hdayOfYear : 36524 * c + 1461 * q + s -
      (365 * (100 * c + 4 * q + k) + (25 * c + q) - c) = s - 365 * k := by omega
  have hm₀ : 0 ≤ m ∧ m ≤ 11 := by omega
  simp only [ofDays, hera, hday, h.yearOfEra, hfour, hhundred, hdayOfYear, ← hm]
  congr 1
  split
  · rw [if_neg (by omega)]
    omega
  · rw [if_pos (by omega)]
    omega

/-- The number of a day by its parts. -/
theorem exists_parts (n : Int) : ∃ era c q k s m : Int,
    n + 719468 = era * 146097 + (36524 * c + 1461 * q + s) ∧
      EraDay (36524 * c + 1461 * q + s) c q k s ∧ m = (5 * (s - 365 * k) + 2) / 153 := by
  obtain ⟨c, q, k, s, h⟩ :=
    exists_eraDay ((n + 719468) % 146097) (by omega) (by omega)
  have hday := h.day
  refine ⟨(n + 719468) / 146097, c, q, k, s, _, ?_, hday ▸ h, rfl⟩
  omega

/-- A day has the number of its date. -/
theorem toDays_ofDays (n : Int) : (ofDays n).toDays = n := by
  obtain ⟨era, c, q, k, s, m, hn, h, hm⟩ := exists_parts n
  obtain ⟨-, hc, hq, hk, hs₀, hs₁, -⟩ := id h
  have hm₀ : 0 ≤ m ∧ m ≤ 11 := by omega
  have hday : 0 ≤ s - 365 * k - (153 * m + 2) / 5 := by omega
  rw [ofDays_eq hn h hm, toDays]
  have hy : (400 * era + 100 * c + 4 * q + k) / 400 = era := by omega
  have hfour : (400 * era + 100 * c + 4 * q + k - era * 400) / 4 = 25 * c + q := by omega
  have hhundred : (400 * era + 100 * c + 4 * q + k - era * 400) / 100 = c := by omega
  by_cases hlate : m < 10
  · have hmonth : ¬(m + 3).toNat ≤ 2 := by omega
    have hmonth' : (((m + 3).toNat : Nat) : Int) - 3 = m := by omega
    simp only [if_pos hlate, if_neg hmonth, hmonth', Int.add_zero, hy, hfour, hhundred]
    omega
  · have hmonth : (m - 9).toNat ≤ 2 := by omega
    have hmonth' : (((m - 9).toNat : Nat) : Int) + 9 = m := by omega
    simp only [if_neg hlate, if_pos hmonth, hmonth', Int.add_sub_cancel, hy, hfour, hhundred]
    omega

/-- The last day of a leap year is the only one that is the 366th, as years start in March here. -/
theorem isLeapYear_of_eraDay {era c q k s : Int} (h : EraDay (36524 * c + 1461 * q + s) c q k s)
    (hs : s - 365 * k = 365) : isLeapYear (400 * era + 100 * c + 4 * q + k + 1) = true := by
  obtain ⟨-, hc, hq, hk, hs₀, hs₁, hlast⟩ := h
  rw [isLeapYear, decide_eq_true_iff]
  omega

/-- Up to January the months from March on are as long as the formula for their first days says. -/
theorem daysInMonth_eq (year : Int) {m : Int} (hm₀ : 0 ≤ m) (hm₁ : m ≤ 10) :
    daysInMonth year (if m < 10 then m + 3 else m - 9).toNat =
      ((153 * (m + 1) + 2) / 5 - (153 * m + 2) / 5).toNat := by
  interval_cases m <;> rfl

theorem daysInMonth_le (year : Int) (month : Nat) : daysInMonth year month ≤ 31 := by
  rw [daysInMonth]
  repeat' split
  all_goals decide

theorem le_daysInMonth_two (year : Int) : 28 ≤ daysInMonth year 2 := by
  rw [daysInMonth, if_pos rfl]
  split <;> decide

/-- Months are long enough for their days. -/
theorem day_le_daysInMonth (era : Int) {c q k s m : Int}
    (h : EraDay (36524 * c + 1461 * q + s) c q k s) (hm : m = (5 * (s - 365 * k) + 2) / 153) :
    (s - 365 * k - (153 * m + 2) / 5 + 1).toNat ≤
      daysInMonth (400 * era + 100 * c + 4 * q + k + (if m < 10 then 0 else 1))
        (if m < 10 then m + 3 else m - 9).toNat := by
  have hdays : 0 ≤ s - 365 * k ∧ s - 365 * k ≤ 365 := by
    obtain ⟨-, -, -, -, hs₀, hs₁, -⟩ := h
    omega
  by_cases hm₁ : m ≤ 10
  · rw [daysInMonth_eq _ (by omega) hm₁]
    omega
  · obtain rfl : m = 11 := by omega
    show _ ≤ daysInMonth (_ + 1) 2
    by_cases hleap : s - 365 * k = 365
    · rw [daysInMonth, if_pos rfl, isLeapYear_of_eraDay h hleap, if_pos rfl]
      omega
    · have hfebruary := le_daysInMonth_two (400 * era + 100 * c + 4 * q + k + 1)
      omega

/-- The date of a day of the calendar exists and is in its range. -/
theorem isValid_ofDays {n : Int} (hfirst : firstDay ≤ n) (hlast : n ≤ lastDay) :
    (ofDays n).isValid = true := by
  obtain ⟨era, c, q, k, s, m, hn, h, hm⟩ := exists_parts n
  have hfirst : -96465292 ≤ n := hfirst
  have hlast : n ≤ 95026236 := hlast
  have hday := day_le_daysInMonth era h hm
  obtain ⟨-, hc, hq, hk, hs₀, hs₁, -⟩ := id h
  have hm₀ : 0 ≤ m ∧ m ≤ 11 := by omega
  rw [ofDays_eq hn h hm, isValid, decide_eq_true_iff]
  refine ⟨?_, ?_, ?_, ?_, ?_, hday⟩
  · show -262143 ≤ 400 * era + 100 * c + 4 * q + k + (if m < 10 then 0 else 1)
    have hyear : -262144 ≤ 400 * era + 100 * c + 4 * q + k := by omega
    have hlate : 400 * era + 100 * c + 4 * q + k = -262144 → 306 ≤ s - 365 * k := by omega
    split <;> omega
  · show 400 * era + 100 * c + 4 * q + k + (if m < 10 then 0 else 1) ≤ 262142
    have hyear : 400 * era + 100 * c + 4 * q + k ≤ 262142 := by omega
    have hearly : 400 * era + 100 * c + 4 * q + k = 262142 → s - 365 * k ≤ 305 := by omega
    split <;> omega
  · dsimp only
    split <;> omega
  · dsimp only
    split <;> omega
  · show 1 ≤ (s - 365 * k - (153 * m + 2) / 5 + 1).toNat
    omega

end Date

end FeatureFlags.Calendar
