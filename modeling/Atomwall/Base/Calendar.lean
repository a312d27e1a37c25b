import Mathlib.Data.Int.Basic

/-!
The calendar of `gmtime_r` and `timegm`. Years are taken from March to February, so that a leap day is
the last day of its year.
-/

namespace Calendar

/-- `struct tm`: years since 1900, months since January. -/
structure Tm where
  year : Int
  mon : Int
  mday : Int
  hour : Int
  min : Int
  sec : Int
  deriving DecidableEq

/-- The days from 1970-01-01 to the first of a month, counted from March. -/
def daysToMonth (year month : Int) : Int :=
  365 * year + year / 4 - year / 100 + year / 400 + (153 * month + 2) / 5 - 719468

/-- Months past December go over into the years, and the other fields into each other. -/
def timegm (tm : Tm) : Int :=
  let year := tm.year + 1900 + tm.mon / 12
  let mon := tm.mon % 12
  let days := if mon < 2 then daysToMonth (year - 1) (mon + 10) else daysToMonth year (mon - 2)
  (days + tm.mday - 1) * 86400 + tm.hour * 3600 + tm.min * 60 + tm.sec

/-- The year of a day of the 400-year cycle. -/
def yearOfCycle (day : Int) : Int := (day - day / 1460 + day / 36524 - day / 146096) / 365

/-- The day of its year of a day of the cycle. -/
def dayOfYear (day : Int) : Int :=
  day - (365 * yearOfCycle day + yearOfCycle day / 4 - yearOfCycle day / 100)

/-- The month of a day of its year, from March on. -/
def monthOfYear (day : Int) : Int := (5 * day + 2) / 153

def gmtime (t : Int) : Tm :=
  let cycle := (t / 86400 + 719468) / 146097
  let day := (t / 86400 + 719468) % 146097
  let month := monthOfYear (dayOfYear day)
  let year := yearOfCycle day + cycle * 400
  let clock := t % 86400
  { year := (if month < 10 then year else year + 1) - 1900
    mon := if month < 10 then month + 2 else month - 10
    mday := dayOfYear day - (153 * month + 2) / 5 + 1
    hour := clock / 3600
    min := clock % 3600 / 60
    sec := clock % 60 }

theorem yearOfCycle_range {day : Int} (first : 0 ≤ day) (last : day < 146097) :
    0 ≤ yearOfCycle day ∧ yearOfCycle day < 400 := by
  unfold yearOfCycle
  omega

/-- Before the last day of the cycle, every century has one leap day less than every fourth year. -/
theorem yearOfCycle_century {day : Int} (first : 0 ≤ day) (last : day < 146096) :
    yearOfCycle day / 100 = day / 36524 := by
  have centuries : day / 36524 = 0 ∨ day / 36524 = 1 ∨ day / 36524 = 2 ∨ day / 36524 = 3 := by omega
  have none_left : day / 146096 = 0 := by omega
  unfold yearOfCycle
  rw [none_left]
  rcases centuries with c | c | c | c
  all_goals
    rw [c]
    omega

theorem dayOfYear_range {day : Int} (first : 0 ≤ day) (last : day < 146097) :
    0 ≤ dayOfYear day ∧ dayOfYear day < 366 := by
  by_cases final : day = 146096
  · subst final
    decide
  · have century := yearOfCycle_century first (by omega)
    have none_left : day / 146096 = 0 := by omega
    unfold dayOfYear
    rw [century]
    unfold yearOfCycle
    rw [none_left]
    omega

theorem monthOfYear_range {day : Int} (first : 0 ≤ day) (last : day < 366) :
    0 ≤ monthOfYear day ∧ monthOfYear day < 12 ∧ (153 * monthOfYear day + 2) / 5 ≤ day := by
  unfold monthOfYear
  omega

theorem daysToMonth_cycle {year : Int} (first : 0 ≤ year) (last : year < 400) (cycle month : Int) :
    daysToMonth (year + cycle * 400) month =
      365 * year + year / 4 - year / 100 + (153 * month + 2) / 5 + cycle * 146097 - 719468 := by
  unfold daysToMonth
  omega

theorem timegm_gmtime (t : Int) : timegm (gmtime t) = t := by
  have first : 0 ≤ (t / 86400 + 719468) % 146097 := by omega
  have last : (t / 86400 + 719468) % 146097 < 146097 := by omega
  have whole : (t / 86400 + 719468) / 146097 * 146097 + (t / 86400 + 719468) % 146097 =
      t / 86400 + 719468 := by omega
  have clock : t % 86400 / 3600 * 3600 + t % 86400 % 3600 / 60 * 60 + t % 86400 % 60 =
      t - t / 86400 * 86400 := by omega
  unfold timegm gmtime
  dsimp only
  generalize t / 86400 = days at *
  generalize (days + 719468) / 146097 = cycle at *
  generalize (days + 719468) % 146097 = day at *
  obtain ⟨year_first, year_last⟩ := yearOfCycle_range first last
  obtain ⟨day_first, day_last⟩ := dayOfYear_range first last
  obtain ⟨month_first, month_last, -⟩ := monthOfYear_range day_first day_last
  have split : dayOfYear day + (365 * yearOfCycle day + yearOfCycle day / 4 - yearOfCycle day / 100) =
      day := by
    unfold dayOfYear
    omega
  have start := daysToMonth_cycle year_first year_last cycle (monthOfYear (dayOfYear day))
  generalize monthOfYear (dayOfYear day) = month at *
  by_cases spring : month < 10
  · have same_year : yearOfCycle day + cycle * 400 - 1900 + 1900 + (month + 2) / 12 =
        yearOfCycle day + cycle * 400 := by omega
    have same_month : (month + 2) % 12 = month + 2 := by omega
    rw [if_pos spring, if_pos spring, same_year, same_month, if_neg (by omega), Int.add_sub_cancel, start]
    omega
  · have next_year : yearOfCycle day + cycle * 400 + 1 - 1900 + 1900 + (month - 10) / 12 - 1 =
        yearOfCycle day + cycle * 400 := by omega
    have same_month : (month - 10) % 12 = month - 10 := by omega
    rw [if_neg spring, if_neg spring, same_month, if_pos (by omega), next_year, Int.sub_add_cancel, start]
    omega

theorem gmtime_nonneg {t : Int} (epoch : 0 ≤ t) :
    0 ≤ (gmtime t).year + 1900 ∧ 0 ≤ (gmtime t).mon + 1 ∧ 0 ≤ (gmtime t).mday ∧ 0 ≤ (gmtime t).hour ∧
      0 ≤ (gmtime t).min ∧ 0 ≤ (gmtime t).sec := by
  have first : 0 ≤ (t / 86400 + 719468) % 146097 := by omega
  have last : (t / 86400 + 719468) % 146097 < 146097 := by omega
  have cycles : 0 ≤ (t / 86400 + 719468) / 146097 := by omega
  obtain ⟨year_first, -⟩ := yearOfCycle_range first last
  obtain ⟨day_first, day_last⟩ := dayOfYear_range first last
  obtain ⟨month_first, -, begun⟩ := monthOfYear_range day_first day_last
  unfold gmtime
  dsimp only
  refine ⟨?_, ?_, ?_, ?_, ?_, ?_⟩
  · split <;> omega
  · split <;> omega
  all_goals omega

example : gmtime 1709208000 = ⟨124, 1, 29, 12, 0, 0⟩ := by decide

end Calendar
