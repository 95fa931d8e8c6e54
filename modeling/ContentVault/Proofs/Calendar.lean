import ContentVault.Calendar
import Mathlib.Data.Int.SuccPred
import Mathlib.Order.SuccPred.Archimedean
import Mathlib.Tactic.IntervalCases

/-!
# The month of a day

The months of the Gregorian calendar, and that the month of a timestamp is the one in which
its day lies.

* a year has a leap day if it is divisible by 4, but not by 100 unless by 400;
* each month starts on the day after the last one of the month before it, and January 1970
  on day 0;
* the month that is computed for a day contains it, also before 1970 and before the year 0.
-/

namespace ContentVault

/-- A year with a leap day. -/
def IsLeapYear (year : Int) : Prop :=
  year % 4 = 0 ∧ (year % 100 ≠ 0 ∨ year % 400 = 0)

instance (year : Int) : Decidable (IsLeapYear year) :=
  inferInstanceAs (Decidable (_ ∧ _))

/-- The days in the years from March of the year 0 to March of a year. -/
def daysBeforeYear (year : Int) : Int :=
  365 * year + year / 4 - year / 100 + year / 400

/-- From March to March there are as many days as the year has in which that ends. -/
theorem daysBeforeYear_succ (year : Int) :
    daysBeforeYear (year + 1) =
      daysBeforeYear year + if IsLeapYear (year + 1) then 366 else 365 := by
  unfold daysBeforeYear
  by_cases leap : IsLeapYear (year + 1)
  · rw [if_pos leap]
    unfold IsLeapYear at leap
    omega
  · rw [if_neg leap]
    unfold IsLeapYear at leap
    omega

theorem daysBeforeYear_succ_le (year : Int) :
    daysBeforeYear (year + 1) ≤ daysBeforeYear year + 366 := by
  rw [daysBeforeYear_succ]
  split <;> omega

/-- Every cycle of four hundred years has the same number of days. -/
theorem daysBeforeYear_add_cycle (year cycle : Int) :
    daysBeforeYear (year + cycle * 400) = daysBeforeYear year + cycle * 146097 := by
  unfold daysBeforeYear
  omega

namespace YearMonth

/-- How many days a month has. -/
def dayCount (yearMonth : YearMonth) : Int :=
  match yearMonth.month with
  | 2 => if IsLeapYear yearMonth.year then 29 else 28
  | 4 | 6 | 9 | 11 => 30
  | _ => 31

/-- The month after a month. -/
def next (yearMonth : YearMonth) : YearMonth :=
  if yearMonth.month = 12 then
    ⟨yearMonth.year + 1, 1⟩
  else
    { yearMonth with month := yearMonth.month + 1 }

/-- The month that comes some months after March of a year. -/
def fromMarch (year : Int) (months : Nat) : YearMonth :=
  if months < 10 then ⟨year, months + 3⟩ else ⟨year + 1, months - 9⟩

/-- The day on which a month starts, counted from the start of 1970. -/
def firstDay (yearMonth : YearMonth) : Int :=
  let sinceMarch := (yearMonth.month + 9) % 12
  let year := if yearMonth.month ≤ 2 then yearMonth.year - 1 else yearMonth.year
  daysBeforeYear year + (153 * sinceMarch + 2) / 5 - 719468

/-- Months follow each other without a gap. -/
theorem firstDay_next {yearMonth : YearMonth} (low : 1 ≤ yearMonth.month)
    (high : yearMonth.month ≤ 12) :
    yearMonth.next.firstDay = yearMonth.firstDay + yearMonth.dayCount := by
  obtain ⟨year, month⟩ := yearMonth
  dsimp only at low high
  -- Only February depends on the year.
  have toMarch := daysBeforeYear_succ (year - 1)
  rw [Int.sub_add_cancel] at toMarch
  by_cases leap : IsLeapYear year
  · rw [if_pos leap] at toMarch
    interval_cases month <;> simp [firstDay, next, dayCount, leap, toMarch] <;> omega
  · rw [if_neg leap] at toMarch
    interval_cases month <;> simp [firstDay, next, dayCount, leap, toMarch] <;> omega

/-- The days are counted from the first month of 1970. -/
example : firstDay ⟨1970, 1⟩ = 0 := by
  decide

theorem firstDay_fromMarch (year : Int) {months : Nat} (small : months < 12) :
    (fromMarch year months).firstDay =
      daysBeforeYear year + (153 * months + 2) / 5 - 719468 := by
  interval_cases months <;> simp [firstDay, fromMarch]

theorem next_fromMarch (year : Int) {months : Nat} (small : months < 12) :
    (fromMarch year months).next =
      if months = 11 then fromMarch (year + 1) 0 else fromMarch year (months + 1) := by
  interval_cases months <;> simp [next, fromMarch]

/-- A month in which a day lies. -/
structure Contains (yearMonth : YearMonth) (day : Int) : Prop where
  month_pos : 1 ≤ yearMonth.month
  month_le : yearMonth.month ≤ 12
  started : yearMonth.firstDay ≤ day
  unended : day < yearMonth.firstDay + yearMonth.dayCount

end YearMonth

/-! ## The year of a day -/

/-- The days of a cycle of four hundred years, less the leap days before each of them. -/
def withoutLeapDays (dayOfCycle : Int) : Int :=
  dayOfCycle - dayOfCycle / 1460 + dayOfCycle / 36524 - dayOfCycle / 146096

theorem withoutLeapDays_mono {first second : Int} (ordered : first ≤ second) :
    withoutLeapDays first ≤ withoutLeapDays second := by
  refine monotone_int_of_le_succ (fun day => ?_) ordered
  unfold withoutLeapDays
  omega

/-- The first and the last day of each year of a cycle tell the year. -/
theorem withoutLeapDays_year :
    ∀ year : Nat, year < 400 →
      365 * (year : Int) ≤ withoutLeapDays (daysBeforeYear year) ∧
        withoutLeapDays (daysBeforeYear (year + 1) - 1) < 365 * (year + 1) := by
  decide +kernel

/-- A year of a cycle that has started on a day and not ended. -/
structure YearOfCycle (year dayOfCycle : Int) : Prop where
  nonneg : 0 ≤ year
  lt_cycle : year < 400
  started : daysBeforeYear year ≤ dayOfCycle
  unended : dayOfCycle < daysBeforeYear (year + 1)

theorem yearOfCycle_withoutLeapDays {dayOfCycle : Int} (low : 0 ≤ dayOfCycle)
    (high : dayOfCycle < 146097) :
    YearOfCycle (withoutLeapDays dayOfCycle / 365) dayOfCycle := by
  have first : 0 ≤ withoutLeapDays dayOfCycle := withoutLeapDays_mono low
  have last : withoutLeapDays dayOfCycle ≤ withoutLeapDays 146096 :=
    withoutLeapDays_mono (Int.le_of_lt_add_one high)
  have total : withoutLeapDays 146096 = 145999 := by decide
  obtain ⟨year, isYear⟩ := Int.eq_ofNat_of_zero_le
    (show 0 ≤ withoutLeapDays dayOfCycle / 365 by omega)
  have small : year < 400 := by omega
  rw [isYear]
  refine ⟨by omega, by omega, ?_, ?_⟩
  · by_contra notStarted
    cases year with
    | zero =>
        exact notStarted low
    | succ year =>
        have before := (withoutLeapDays_year year (by omega)).2
        have earlier : withoutLeapDays dayOfCycle ≤
            withoutLeapDays (daysBeforeYear (year + 1) - 1) :=
          withoutLeapDays_mono (by push_cast at notStarted; omega)
        push_cast at isYear
        omega
  · by_contra ended
    by_cases lastYear : year = 399
    · subst lastYear
      have cycle : daysBeforeYear 400 = 146097 := by decide
      exact ended (cycle ▸ high)
    · have after := (withoutLeapDays_year (year + 1) (by omega)).1
      have later : withoutLeapDays (daysBeforeYear (year + 1)) ≤ withoutLeapDays dayOfCycle :=
        withoutLeapDays_mono (Int.not_lt.1 ended)
      push_cast at after
      omega

/-! ## The month of a day -/

namespace YearMonth

/-- A day lies in the year of its cycle, and its month follows from the day of that year,
both counted from March. -/
theorem ofDay_eq_fromMarch (day : Int) :
    ∃ year dayOfYear : Int,
      day + 719468 = daysBeforeYear year + dayOfYear ∧ 0 ≤ dayOfYear ∧
        daysBeforeYear year + dayOfYear < daysBeforeYear (year + 1) ∧
          ofDay day = fromMarch year ((5 * dayOfYear + 2) / 153).toNat := by
  have split : day + 719468 = (day + 719468) % 146097 + (day + 719468) / 146097 * 146097 := by
    omega
  have inCycle := yearOfCycle_withoutLeapDays
    (Int.emod_nonneg (day + 719468) (by decide : (146097 : Int) ≠ 0))
    (Int.emod_lt_of_pos (day + 719468) (by decide : (0 : Int) < 146097))
  unfold ofDay
  dsimp only
  rw [Int.fdiv_eq_ediv_of_nonneg _ (by decide), Int.fmod_eq_emod_of_nonneg _ (by decide)]
  generalize (day + 719468) % 146097 = dayOfCycle at *
  generalize (day + 719468) / 146097 = cycle at *
  rw [show dayOfCycle - dayOfCycle / 1460 + dayOfCycle / 36524 - dayOfCycle / 146096 =
    withoutLeapDays dayOfCycle from rfl]
  generalize withoutLeapDays dayOfCycle / 365 = year at *
  obtain ⟨nonneg, small, started, unended⟩ := inCycle
  have before : 365 * year + year / 4 - year / 100 = daysBeforeYear year := by
    unfold daysBeforeYear
    omega
  rw [before]
  refine ⟨year + cycle * 400, dayOfCycle - daysBeforeYear year, ?_, by omega, ?_, ?_⟩
  · rw [daysBeforeYear_add_cycle]
    omega
  · rw [show year + cycle * 400 + 1 = year + 1 + cycle * 400 by omega,
      daysBeforeYear_add_cycle, daysBeforeYear_add_cycle]
    omega
  · have atMost := daysBeforeYear_succ_le year
    have nonneg : 0 ≤ (5 * (dayOfCycle - daysBeforeYear year) + 2) / 153 := by omega
    have small : (5 * (dayOfCycle - daysBeforeYear year) + 2) / 153 < 12 := by omega
    generalize (5 * (dayOfCycle - daysBeforeYear year) + 2) / 153 = months at nonneg small ⊢
    obtain ⟨sinceMarch, rfl⟩ := Int.eq_ofNat_of_zero_le nonneg
    unfold fromMarch
    by_cases thisYear : sinceMarch < 10
    · rw [if_pos (by omega : (sinceMarch : Int) < 10), if_neg (by omega), if_pos (by omega)]
      congr 1
    · rw [if_neg (by omega : ¬ (sinceMarch : Int) < 10), if_pos (by omega), if_neg (by omega)]
      congr 1
      omega

/-- The month that is computed for a day contains it. -/
theorem ofDay_contains (day : Int) : (ofDay day).Contains day := by
  obtain ⟨year, dayOfYear, isDay, low, high, computed⟩ := ofDay_eq_fromMarch day
  have atMost := daysBeforeYear_succ_le year
  obtain ⟨months, isMonths⟩ := Int.eq_ofNat_of_zero_le
    (show 0 ≤ (5 * dayOfYear + 2) / 153 by omega)
  have small : months < 12 := by omega
  rw [computed, isMonths, Int.toNat_natCast]
  have bounds : 1 ≤ (fromMarch year months).month ∧ (fromMarch year months).month ≤ 12 := by
    unfold fromMarch
    split
    · exact ⟨by dsimp only; omega, by dsimp only; omega⟩
    · exact ⟨by dsimp only; omega, by dsimp only; omega⟩
  refine ⟨bounds.1, bounds.2, ?_, ?_⟩
  · rw [firstDay_fromMarch year small]
    omega
  · rw [← firstDay_next bounds.1 bounds.2, next_fromMarch year small]
    split
    · rw [firstDay_fromMarch _ (by decide)]
      omega
    · rw [firstDay_fromMarch _ (by omega)]
      push_cast
      omega

/-! ## The only month of a day -/

/-- The month that comes some months after January of the year 0. -/
def ofIndex (months : Int) : YearMonth :=
  ⟨months / 12, (months % 12).toNat + 1⟩

theorem exists_index {yearMonth : YearMonth} (low : 1 ≤ yearMonth.month)
    (high : yearMonth.month ≤ 12) :
    ∃ months, ofIndex months = yearMonth := by
  obtain ⟨year, month⟩ := yearMonth
  dsimp only at low high
  refine ⟨year * 12 + (month - 1), ?_⟩
  unfold ofIndex
  congr 1 <;> omega

theorem month_ofIndex_bounds (months : Int) :
    1 ≤ (ofIndex months).month ∧ (ofIndex months).month ≤ 12 := by
  unfold ofIndex
  constructor
  · exact Nat.le_add_left 1 _
  · dsimp only
    omega

theorem next_ofIndex (months : Int) : (ofIndex months).next = ofIndex (months + 1) := by
  unfold next ofIndex
  dsimp only
  split
  · congr 1 <;> omega
  · congr 1 <;> omega

theorem firstDay_ofIndex_succ (months : Int) :
    (ofIndex (months + 1)).firstDay =
      (ofIndex months).firstDay + (ofIndex months).dayCount := by
  obtain ⟨low, high⟩ := month_ofIndex_bounds months
  rw [← next_ofIndex, firstDay_next low high]

theorem dayCount_nonneg (yearMonth : YearMonth) : 0 ≤ yearMonth.dayCount := by
  unfold dayCount
  split
  · split <;> decide
  · decide
  · decide
  · decide
  · decide
  · decide

theorem firstDay_ofIndex_mono {first second : Int} (ordered : first ≤ second) :
    (ofIndex first).firstDay ≤ (ofIndex second).firstDay := by
  have mono : Monotone fun months => (ofIndex months).firstDay := by
    refine monotone_int_of_le_succ fun months => ?_
    rw [firstDay_ofIndex_succ]
    have nonneg := dayCount_nonneg (ofIndex months)
    omega
  exact mono ordered

/-- A day lies in one month only. -/
theorem Contains.unique {first second : YearMonth} {day : Int} (inFirst : first.Contains day)
    (inSecond : second.Contains day) : first = second := by
  obtain ⟨before, rfl⟩ := exists_index inFirst.month_pos inFirst.month_le
  obtain ⟨after, rfl⟩ := exists_index inSecond.month_pos inSecond.month_le
  have ended := inFirst.unended
  have otherEnded := inSecond.unended
  rw [← firstDay_ofIndex_succ] at ended otherEnded
  rcases lt_trichotomy before after with earlier | rfl | later
  · have ordered := firstDay_ofIndex_mono (Int.add_one_le_of_lt earlier)
    exact absurd (ended.trans_le (ordered.trans inSecond.started)) (lt_irrefl day)
  · rfl
  · have ordered := firstDay_ofIndex_mono (Int.add_one_le_of_lt later)
    exact absurd (otherEnded.trans_le (ordered.trans inFirst.started)) (lt_irrefl day)

end YearMonth

/-- The day of a timestamp, counted from the start of 1970. -/
def Timestamp.day (timestamp : Timestamp) : Int :=
  timestamp.seconds.fdiv 86400

/-- The month of a timestamp is the one in which its day lies. -/
theorem Timestamp.contains_day_iff {timestamp : Timestamp} {yearMonth : YearMonth} :
    yearMonth.Contains timestamp.day ↔ yearMonth = timestamp.yearMonth := by
  constructor
  · exact fun contains => contains.unique (YearMonth.ofDay_contains _)
  · rintro rfl
    exact YearMonth.ofDay_contains _

end ContentVault
