import Mathlib.Data.Int.Notation
import Mathlib.Tactic.Set

/-!
# Instants and their calendar fields

`struct tm` and `gmtime_r`: an instant is a number of seconds since 1970, and its
fields are those of the Gregorian calendar at UTC.
-/

namespace RequiemDB

/-- `struct tm` without the fields on daylight saving time. -/
structure Tm where
  sec : Int
  min : Int
  hour : Int
  mday : Int
  mon : Int
  year : Int
  wday : Int
  yday : Int
deriving DecidableEq

/-- The days from 1970-01-01 to the first of March of a year. -/
def daysToMarch (year : Int) : Int :=
  365 * year + year / 4 - year / 100 + year / 400 - 719468

/-- The year, counted from March, that a day since 1970-01-01 lies in. -/
def marchYear (days : Int) : Int :=
  let days := days + 719468
  let dayOfEra := days % 146097
  (dayOfEra - dayOfEra / 1460 + dayOfEra / 36524 - dayOfEra / 146096) / 365 + 400 * (days / 146097)

/-- `gmtime_r`. -/
def gmtime (instant : Int) : Tm :=
  let days := instant / 86400
  let second := instant % 86400
  let marchYear := marchYear days
  let dayOfYear := days - daysToMarch marchYear
  -- the months from March on have 31, 30, 31, 30, 31 days, and so again
  let month := (5 * dayOfYear + 2) / 153
  let year := if month < 10 then marchYear else marchYear + 1
  { sec := second % 60
    min := second / 60 % 60
    hour := second / 3600
    mday := dayOfYear - (153 * month + 2) / 5 + 1
    mon := if month < 10 then month + 2 else month - 10
    year := year - 1900
    wday := (days + 4) % 7
    yday := days - daysToMarch (year - 1) - 306 }

/-- Thursday, the first of January 1970, and the 29th of February 2000, a Tuesday. -/
example : gmtime 0 = ⟨0, 0, 0, 1, 0, 70, 4, 0⟩ ∧
    gmtime 951827696 = ⟨56, 34, 12, 29, 1, 100, 2, 59⟩ := by
  decide

/-- The year of an era of 400 years that a day lies in, and the days before it in that year. -/
theorem yearOfEra_bounds {dayOfEra : Int} (nonneg : 0 ≤ dayOfEra) (below : dayOfEra < 146097) :
    let year := (dayOfEra - dayOfEra / 1460 + dayOfEra / 36524 - dayOfEra / 146096) / 365
    0 ≤ year ∧ year < 400 ∧ 0 ≤ dayOfEra - (365 * year + year / 4 - year / 100) ∧
      dayOfEra - (365 * year + year / 4 - year / 100) ≤ 365 := by
  intro year
  have century : dayOfEra / 36524 = 0 ∨ dayOfEra / 36524 = 1 ∨ dayOfEra / 36524 = 2 ∨
      dayOfEra / 36524 = 3 ∨ dayOfEra = 146096 := by omega
  rcases century with first | second | third | fourth | rfl
  case inr.inr.inr.inr => decide
  all_goals
    have centuries : year / 100 = dayOfEra / 36524 := by omega
    have leapDays : year / 4 ≤ dayOfEra / 1460 ∧ dayOfEra / 1460 ≤ year / 4 + 1 := by omega
    omega

theorem dayOfMarchYear_bounds (days : Int) :
    0 ≤ days - daysToMarch (marchYear days) ∧ days - daysToMarch (marchYear days) ≤ 365 := by
  have era := Int.emod_add_mul_ediv (days + 719468) 146097
  have nonneg := Int.emod_nonneg (days + 719468) (show (146097 : Int) ≠ 0 by decide)
  have below := Int.emod_lt_of_pos (days + 719468) (show (0 : Int) < 146097 by decide)
  rcases yearOfEra_bounds nonneg below with ⟨yearNonneg, yearBelow, first, last⟩
  simp only [daysToMarch, marchYear]
  generalize (days + 719468) % 146097 = dayOfEra at *
  generalize (dayOfEra - dayOfEra / 1460 + dayOfEra / 36524 - dayOfEra / 146096) / 365 = year at *
  generalize (days + 719468) / 146097 = eras at *
  have fourths : (year + 400 * eras) / 4 = year / 4 + 100 * eras := by omega
  have centuries : (year + 400 * eras) / 100 = year / 100 + 4 * eras := by omega
  have cycles : (year + 400 * eras) / 400 = eras := by omega
  omega

/-- The fields in the ranges that the C standard gives them. -/
structure Tm.Normal (time : Tm) : Prop where
  sec : 0 ≤ time.sec ∧ time.sec ≤ 60
  min : 0 ≤ time.min ∧ time.min ≤ 59
  hour : 0 ≤ time.hour ∧ time.hour ≤ 23
  mday : 1 ≤ time.mday ∧ time.mday ≤ 31
  mon : 0 ≤ time.mon ∧ time.mon ≤ 11

theorem normal_gmtime (instant : Int) : (gmtime instant).Normal := by
  have day := dayOfMarchYear_bounds (instant / 86400)
  constructor <;> simp only [gmtime]
  case mon => split <;> omega
  all_goals omega

/-- `timegm` on fields in their ranges; the days of the week and of the year are not read. -/
def timegm (time : Tm) : Int :=
  let marchYear := if time.mon < 2 then time.year + 1899 else time.year + 1900
  let month := if time.mon < 2 then time.mon + 10 else time.mon - 2
  let days := daysToMarch marchYear + (153 * month + 2) / 5 + time.mday - 1
  86400 * days + 3600 * time.hour + 60 * time.min + time.sec

theorem timegm_gmtime (instant : Int) : timegm (gmtime instant) = instant := by
  have day := dayOfMarchYear_bounds (instant / 86400)
  set march := marchYear (instant / 86400)
  set month := (5 * (instant / 86400 - daysToMarch march) + 2) / 153 with month_eq
  have sec : (gmtime instant).sec = instant % 86400 % 60 := rfl
  have min : (gmtime instant).min = instant % 86400 / 60 % 60 := rfl
  have hour : (gmtime instant).hour = instant % 86400 / 3600 := rfl
  have mday : (gmtime instant).mday =
      instant / 86400 - daysToMarch march - (153 * month + 2) / 5 + 1 := rfl
  have mon : (gmtime instant).mon = if month < 10 then month + 2 else month - 10 := rfl
  have year : (gmtime instant).year = (if month < 10 then march else march + 1) - 1900 := rfl
  by_cases early : month < 10
  · rw [if_pos early] at mon year
    have notEarly : ¬ (gmtime instant).mon < 2 := by omega
    have same : (gmtime instant).year + 1900 = march := by omega
    simp only [timegm, notEarly, if_false, same]
    omega
  · rw [if_neg early] at mon year
    have january : (gmtime instant).mon < 2 := by omega
    have same : (gmtime instant).year + 1899 = march := by omega
    simp only [timegm, january, if_true, same]
    omega

end RequiemDB
