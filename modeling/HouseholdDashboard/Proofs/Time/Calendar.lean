import HouseholdDashboard.Time.Calendar

/-!
# Days and dates

The calendar repeats every 400 years.  A cycle has four centuries, a century 25 groups of four years
and a group four years; in a year that begins in March the months follow one rule.  A `Reckoning`
is a day in these units.  Each day has one (`Reckoning.of`), and its date is the one that `ofDays`
finds (`ofDays_eq`), is in the calendar (`valid_date`) and is counted back to the day
(`toDays_date`).
-/

namespace HouseholdDashboard.Date

theorem isLeap_iff {year : Int} :
    isLeap year = true ↔ year % 4 = 0 ∧ (year % 100 ≠ 0 ∨ year % 400 = 0) := by
  simp [isLeap]

theorem daysInMonth_le (year : Int) (month : Nat) : daysInMonth year month ≤ 31 := by
  unfold daysInMonth
  split
  · split <;> omega
  · split <;> omega

/-- A day by its cycle, its century there, its group of years there and so on; March is month 0. -/
structure Reckoning (days : Int) where
  cycle : Int
  century : Int
  group : Int
  single : Int
  dayOfYear : Int
  month : Nat
  day : Nat
  year_range : (0 ≤ century ∧ century ≤ 3) ∧ (0 ≤ group ∧ group ≤ 24) ∧ 0 ≤ single ∧ single ≤ 3
  dayOfYear_range : 0 ≤ dayOfYear ∧ dayOfYear ≤ 365
  /-- The leap day ends the last year of a group; the last group of a century has none but in the
  last century. -/
  leap_of_last : dayOfYear = 365 → single = 3 ∧ (group = 24 → century = 3)
  days_eq : days + 719468 =
    146097 * cycle + (36524 * century + 1461 * group + 365 * single + dayOfYear)
  month_le : month ≤ 11
  day_pos : 1 ≤ day
  dayOfYear_eq : dayOfYear = (153 * (month : Int) + 2) / 5 + day - 1
  dayOfYear_lt : dayOfYear < (153 * (month + 1 : Int) + 2) / 5

namespace Reckoning

/-- As many whole units as fit; the last century and the last year of a group may be a day
longer. -/
def of (days : Int) : Reckoning days :=
  let dayOfCycle := (days + 719468) % 146097
  let century := min (dayOfCycle / 36524) 3
  let dayOfCentury := dayOfCycle - 36524 * century
  let dayOfGroup := dayOfCentury % 1461
  let single := min (dayOfGroup / 365) 3
  let dayOfYear := dayOfGroup - 365 * single
  let month := (5 * dayOfYear + 2) / 153
  have dayOfYear_range : 0 ≤ dayOfYear ∧ dayOfYear ≤ 365 := by omega
  { cycle := (days + 719468) / 146097
    century
    group := dayOfCentury / 1461
    single
    dayOfYear
    month := month.toNat
    day := (dayOfYear - (153 * month + 2) / 5 + 1).toNat
    year_range := by omega
    dayOfYear_range := dayOfYear_range
    leap_of_last := by omega
    days_eq := by omega
    month_le := by omega
    day_pos := by omega
    dayOfYear_eq := by omega
    dayOfYear_lt := by omega }

variable {days : Int} (r : Reckoning days)

/-- The year of the cycle that began in the last March. -/
def yearOfCycle : Int := 100 * r.century + 4 * r.group + r.single

/-- The days of the cycle that have passed. -/
def dayOfCycle : Int := 36524 * r.century + 1461 * r.group + 365 * r.single + r.dayOfYear

def date : Date :=
  if r.month < 10 then ⟨r.yearOfCycle + r.cycle * 400, r.month + 3, r.day⟩
  else ⟨r.yearOfCycle + r.cycle * 400 + 1, r.month - 9, r.day⟩

/-! ## The years of a cycle -/

theorem yearOfCycle_div_four : r.yearOfCycle / 4 = 25 * r.century + r.group := by
  have range := r.year_range
  unfold yearOfCycle
  omega

theorem yearOfCycle_div_hundred : r.yearOfCycle / 100 = r.century := by
  have range := r.year_range
  unfold yearOfCycle
  omega

theorem dayOfCycle_range : 0 ≤ r.dayOfCycle ∧ r.dayOfCycle < 146097 := by
  have range := r.year_range
  have dayRange := r.dayOfYear_range
  have leap := r.leap_of_last
  unfold dayOfCycle
  omega

/-- The years of a cycle that have passed take 365 days each, and one for each group and none for
each century. -/
theorem dayOfCycle_eq : r.dayOfCycle =
    365 * r.yearOfCycle + r.yearOfCycle / 4 - r.yearOfCycle / 100 + r.dayOfYear := by
  rw [yearOfCycle_div_four, yearOfCycle_div_hundred, dayOfCycle, yearOfCycle]
  omega

/-- Without the leap days that have passed, each year has 365 days. -/
theorem yearOfCycle_eq :
    (r.dayOfCycle - r.dayOfCycle / 1460 + r.dayOfCycle / 36524 - r.dayOfCycle / 146096) / 365 =
      r.yearOfCycle := by
  have range := r.year_range
  have dayRange := r.dayOfYear_range
  have leap := r.leap_of_last
  have counted : r.dayOfCycle = 36524 * r.century + 1461 * r.group + 365 * r.single + r.dayOfYear :=
    rfl
  unfold yearOfCycle
  by_cases isLast : r.dayOfCycle = 146096
  · omega
  · have centuries : r.dayOfCycle / 36524 = r.century := by omega
    have cycles : r.dayOfCycle / 146096 = 0 := by omega
    -- the count of the groups runs ahead in the last year of a group, at the latest on its leap day
    have groups : r.dayOfCycle / 1460 = 25 * r.century + r.group ∧ r.dayOfYear ≠ 365 ∨
        r.dayOfCycle / 1460 = 25 * r.century + r.group + 1 ∧ 1 ≤ r.dayOfYear := by omega
    rw [centuries, cycles]
    rcases groups with ⟨passed, common⟩ | ⟨ahead, started⟩
    · omega
    · omega

theorem isLeap_of_last (last : r.dayOfYear = 365) :
    isLeap (r.yearOfCycle + r.cycle * 400 + 1) = true := by
  have range := r.year_range
  have leap := r.leap_of_last last
  rw [isLeap_iff, yearOfCycle]
  omega

/-! ## The date of a reckoning -/

theorem month_eq : (5 * r.dayOfYear + 2) / 153 = r.month := by
  have counted := r.dayOfYear_eq
  have next := r.dayOfYear_lt
  have dayPos := r.day_pos
  omega

theorem ofDays_eq : ofDays days = r.date := by
  have range := r.dayOfCycle_range
  have counted : days + 719468 = 146097 * r.cycle + r.dayOfCycle := r.days_eq
  have cycle : (days + 719468) / 146097 = r.cycle := by omega
  have dayOfCycle : (days + 719468) % 146097 = r.dayOfCycle := by omega
  have dayOfYear : r.dayOfCycle -
      (365 * r.yearOfCycle + r.yearOfCycle / 4 - r.yearOfCycle / 100) = r.dayOfYear := by
    have passed := r.dayOfCycle_eq
    omega
  have day : (r.dayOfYear - (153 * (r.month : Int) + 2) / 5 + 1).toNat = r.day := by
    have start := r.dayOfYear_eq
    omega
  unfold ofDays date
  simp only [cycle, dayOfCycle, r.yearOfCycle_eq, dayOfYear, r.month_eq, day]
  by_cases early : r.month < 10
  · have fromMarch : (r.month : Int) < 10 := by omega
    have sameYear : ¬ (r.month : Int) + 3 ≤ 2 := by omega
    simp only [if_pos fromMarch, if_neg sameYear, if_pos early, Int.add_zero]
    rfl
  · have winter : ¬ (r.month : Int) < 10 := by omega
    have nextYear : (r.month : Int) - 9 ≤ 2 := by
      have upper := r.month_le
      omega
    simp only [if_neg winter, if_pos nextYear, if_neg early, Date.mk.injEq, true_and, and_true]
    omega

/-- No month is longer than the calendar has it: the rule would give February 30 days, but the year
ends before. -/
theorem day_le_daysInMonth : r.date.day ≤ daysInMonth r.date.year r.date.month := by
  have counted := r.dayOfYear_eq
  have next := r.dayOfYear_lt
  have last := r.dayOfYear_range.2
  unfold date
  by_cases early : r.month < 10
  · have notFebruary : r.month + 3 ≠ 2 := by omega
    rw [if_pos early, daysInMonth, if_neg notFebruary]
    dsimp only
    split
    · omega
    · omega
  · rw [if_neg early]
    by_cases january : r.month = 10
    · rw [january]
      change r.day ≤ 31
      omega
    · have february : r.month = 11 := by
        have upper := r.month_le
        omega
      rw [february]
      change r.day ≤ if isLeap (r.yearOfCycle + r.cycle * 400 + 1) = true then 29 else 28
      by_cases isLast : r.dayOfYear = 365
      · rw [if_pos (r.isLeap_of_last isLast)]
        omega
      · split
        · omega
        · omega

theorem valid_date : r.date.Valid := by
  have upper := r.month_le
  refine ⟨?_, ?_, ?_, r.day_le_daysInMonth⟩
  all_goals
    unfold date
    split
  · exact Nat.le_add_left 1 (r.month + 2)
  · dsimp only
    omega
  · dsimp only
    omega
  · dsimp only
    omega
  · exact r.day_pos
  · exact r.day_pos

theorem toDays_date : r.date.toDays = days := by
  have range := r.year_range
  have cycle : (r.yearOfCycle + r.cycle * 400) / 400 = r.cycle := by
    unfold yearOfCycle
    omega
  have yearOfCycle : (r.yearOfCycle + r.cycle * 400) % 400 = r.yearOfCycle := by
    unfold yearOfCycle
    omega
  have counted : days + 719468 = 146097 * r.cycle + r.dayOfCycle := r.days_eq
  have passed := r.dayOfCycle_eq
  have start := r.dayOfYear_eq
  unfold date
  by_cases early : r.month < 10
  · have month : ((r.month + 3 : Nat) : Int) - 3 = r.month := by omega
    have notSpring : ¬ r.month + 3 ≤ 2 := by omega
    rw [if_pos early, toDays]
    simp only [if_neg notSpring, cycle, yearOfCycle, month]
    omega
  · have month : ((r.month - 9 : Nat) : Int) + 9 = r.month := by omega
    have winter : r.month - 9 ≤ 2 := by
      have upper := r.month_le
      omega
    rw [if_neg early, toDays]
    simp only [if_pos winter, Int.add_sub_cancel, cycle, yearOfCycle, month]
    omega

end Reckoning

/-! ## The date of a day -/

theorem valid_ofDays (days : Int) : (ofDays days).Valid := by
  rw [(Reckoning.of days).ofDays_eq]
  exact (Reckoning.of days).valid_date

theorem toDays_ofDays (days : Int) : (ofDays days).toDays = days := by
  rw [(Reckoning.of days).ofDays_eq]
  exact (Reckoning.of days).toDays_date

/-- The day after the 28th of February, in 1900 and in 2000. -/
example : ofDays (-25508) = ⟨1900, 3, 1⟩ ∧ ofDays 11016 = ⟨2000, 2, 29⟩ := by
  decide

end HouseholdDashboard.Date
