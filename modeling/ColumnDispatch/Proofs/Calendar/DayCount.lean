import ColumnDispatch.Calendar.Civil

/-! Dates and day numbers. Both directions of the count go through years and months from March: a
year from March starts where `yearStart` says, whatever cycle it lies in, and a month where
`monthStart` says, whatever its year. The year and the month of a day are then those whose bounds
the day lies between. Main statements: `Civil.dayNumber_ofDayNumber`, that the date of a day number
counts back to it, and `Civil.isValid_ofDayNumber`, that it is a date of the calendar. -/

namespace ColumnDispatch.Calendar

/-! ### Years from March -/

/-- The days from the March of the year 0 to the March of another year. -/
def yearStart (y : Int) : Int := 365 * y + y / 4 - y / 100 + y / 400

theorem isLeapYear_iff {year : Int} :
    isLeapYear year ↔ year % 4 = 0 ∧ (year % 100 ≠ 0 ∨ year % 400 = 0) := by
  simp [isLeapYear]

theorem yearStart_mono {y z : Int} (h : y ≤ z) : yearStart y ≤ yearStart z := by
  unfold yearStart
  omega

/-- A year from March ends with the leap day of the calendar year that it ends in. -/
theorem yearStart_succ (y : Int) :
    yearStart (y + 1) = yearStart y + if isLeapYear (y + 1) then 366 else 365 := by
  unfold yearStart
  split
  · rename_i h
    rw [isLeapYear_iff] at h
    omega
  · rename_i h
    rw [isLeapYear_iff] at h
    omega

/-- The years of later cycles are those of the first one. -/
theorem yearStart_cycle (cycle y : Int) :
    yearStart (cycle * 400 + y) = cycle * daysPerCycle + yearStart y := by
  unfold yearStart daysPerCycle
  omega

/-- The year of a cycle that a day of the cycle falls in. -/
def yearOfCycle (d : Int) : Int := (d - d / 1460 + d / 36524 - d / 146096) / 365

section Cycle

variable {d : Int} (low : 0 ≤ d) (high : d < daysPerCycle)

include low high

theorem yearOfCycle_bounds : 0 ≤ yearOfCycle d ∧ yearOfCycle d < 400 := by
  unfold yearOfCycle
  unfold daysPerCycle at high
  omega

/-- All days of a cycle but the last lie in one of four centuries of 36524 days. -/
theorem century_of_yearOfCycle (hleap : d ≠ 146096) :
    yearOfCycle d / 100 = d / 36524 ∧
      (d / 36524 = 0 ∨ d / 36524 = 1 ∨ d / 36524 = 2 ∨ d / 36524 = 3) := by
  unfold yearOfCycle
  unfold daysPerCycle at high
  have hcentury : d / 36524 = 0 ∨ d / 36524 = 1 ∨ d / 36524 = 2 ∨ d / 36524 = 3 := by omega
  refine ⟨?_, hcentury⟩
  rcases hcentury with h | h | h | h <;> omega

theorem yearStart_yearOfCycle_le : yearStart (yearOfCycle d) ≤ d := by
  by_cases hleap : d = 146096
  · subst hleap
    decide
  · obtain ⟨hzero, hlast⟩ := yearOfCycle_bounds low high
    obtain ⟨hyear, hcentury⟩ := century_of_yearOfCycle low high hleap
    have hcycle : yearOfCycle d / 400 = 0 := by omega
    unfold yearStart
    unfold yearOfCycle at *
    rcases hcentury with h | h | h | h <;> omega

theorem lt_yearStart_yearOfCycle : d < yearStart (yearOfCycle d + 1) := by
  by_cases hend : yearOfCycle d = 399
  · rw [hend]
    exact high
  · have hleap : d ≠ 146096 := by
      rintro rfl
      exact hend (by decide)
    obtain ⟨hzero, hlast⟩ := yearOfCycle_bounds low high
    obtain ⟨hyear, hcentury⟩ := century_of_yearOfCycle low high hleap
    have hcycle : (yearOfCycle d + 1) / 400 = 0 := by omega
    -- the year after may be in the next century
    have hnext : (yearOfCycle d + 1) / 100 = yearOfCycle d / 100 ∨
        (yearOfCycle d + 1) / 100 = yearOfCycle d / 100 + 1 := by omega
    unfold yearStart
    unfold yearOfCycle at *
    rcases hcentury with h | h | h | h <;> rcases hnext with h' | h' <;> omega

end Cycle

/-! ### Months from March -/

/-- The days from the start of March to the start of a later month of the year from March. -/
def monthStart (m : Int) : Int := (153 * m + 2) / 5

/-- The month, counted from March, that a day of the year from March falls in. -/
def monthOfDay (n : Int) : Int := (5 * n + 2) / 153

theorem monthOfDay_bounds {n : Int} (low : 0 ≤ n) (high : n < 366) :
    0 ≤ monthOfDay n ∧ monthOfDay n < 12 := by
  unfold monthOfDay
  omega

theorem monthStart_monthOfDay_le (n : Int) : monthStart (monthOfDay n) ≤ n := by
  unfold monthStart monthOfDay
  omega

theorem lt_monthStart_monthOfDay (n : Int) : n < monthStart (monthOfDay n + 1) := by
  unfold monthStart monthOfDay
  omega

/-! ### Dates from March -/

namespace Civil

/-- The year from March that the date falls in. -/
def marchYear (c : Civil) : Int := if c.month ≤ 2 then c.year - 1 else c.year

/-- The month of the date, counted from March. -/
def marchMonth (c : Civil) : Int := if c.month ≤ 2 then c.month + 9 else c.month - 3

theorem dayNumber_eq (c : Civil) :
    c.dayNumber = yearStart c.marchYear + monthStart c.marchMonth + c.day - 1 - epochOffset := by
  have hyear : c.marchYear = c.marchYear / 400 * 400 + c.marchYear % 400 := by omega
  rw [hyear, yearStart_cycle]
  have hzero : c.marchYear % 400 / 400 = 0 := by omega
  simp only [dayNumber, yearStart, monthStart, marchYear, marchMonth] at *
  omega

/-- The date of a day in a month and a year that are counted from March. -/
def ofMarch (year month day : Int) : Civil :=
  ⟨if month < 10 then year else year + 1,
    (if month < 10 then month + 3 else month - 9).toNat, day.toNat⟩

section March

variable {year month day : Int}

theorem daysInMonth_ofMarch_last :
    daysInMonth (ofMarch year 11 day).year (ofMarch year 11 day).month =
      if isLeapYear (year + 1) then 29 else 28 := rfl

variable (low : 0 ≤ month) (high : month < 12)

include low high

theorem month_ofMarch_bounds :
    1 ≤ (ofMarch year month day).month ∧ (ofMarch year month day).month ≤ 12 := by
  simp only [ofMarch]
  split <;> omega

theorem marchYear_ofMarch : (ofMarch year month day).marchYear = year := by
  simp only [marchYear, ofMarch]
  split <;> split <;> omega

theorem marchMonth_ofMarch : (ofMarch year month day).marchMonth = month := by
  simp only [marchMonth, ofMarch]
  split <;> split <;> omega

/-- All months but February, the last one, end where the next one starts. -/
theorem daysInMonth_ofMarch (hlast : month ≠ 11) :
    (daysInMonth (ofMarch year month day).year (ofMarch year month day).month : Int) =
      monthStart (month + 1) - monthStart month := by
  have hcases : month = 0 ∨ month = 1 ∨ month = 2 ∨ month = 3 ∨ month = 4 ∨ month = 5 ∨
      month = 6 ∨ month = 7 ∨ month = 8 ∨ month = 9 ∨ month = 10 := by omega
  rcases hcases with rfl | rfl | rfl | rfl | rfl | rfl | rfl | rfl | rfl | rfl | rfl <;> rfl

end March

/-! ### The date of a day -/

section Days

variable (days : Int)

/-- The day of its cycle that a day is. -/
def dayOfCycle : Int := (days + epochOffset) % daysPerCycle

theorem dayOfCycle_bounds : 0 ≤ dayOfCycle days ∧ dayOfCycle days < daysPerCycle :=
  ⟨Int.emod_nonneg _ (by decide), Int.emod_lt_of_pos _ (by decide)⟩

/-- The year from March that a day falls in. -/
def yearFromMarch : Int :=
  (days + epochOffset) / daysPerCycle * 400 + yearOfCycle (dayOfCycle days)

/-- Days and years are as far apart as in the first cycle. -/
theorem sub_yearStart (k : Int) :
    days + epochOffset - yearStart (yearFromMarch days + k) =
      dayOfCycle days - yearStart (yearOfCycle (dayOfCycle days) + k) := by
  have hsplit := Int.ediv_mul_add_emod (days + epochOffset) daysPerCycle
  rw [yearFromMarch, Int.add_assoc, yearStart_cycle]
  unfold dayOfCycle at *
  omega

/-- The days since the March before. -/
def dayFromMarch : Int := days + epochOffset - yearStart (yearFromMarch days)

theorem dayFromMarch_eq :
    dayFromMarch days = dayOfCycle days - yearStart (yearOfCycle (dayOfCycle days)) := by
  simpa [dayFromMarch] using sub_yearStart days 0

theorem dayFromMarch_nonneg : 0 ≤ dayFromMarch days := by
  obtain ⟨low, high⟩ := dayOfCycle_bounds days
  have hle := yearStart_yearOfCycle_le low high
  rw [dayFromMarch_eq]
  omega

theorem dayFromMarch_lt :
    dayFromMarch days < if isLeapYear (yearFromMarch days + 1) then 366 else 365 := by
  obtain ⟨low, high⟩ := dayOfCycle_bounds days
  have hlt := lt_yearStart_yearOfCycle low high
  have hnext := sub_yearStart days 1
  rw [yearStart_succ] at hnext
  unfold dayFromMarch
  omega

/-- The month of the year from March that a day falls in. -/
def monthFromMarch : Int := monthOfDay (dayFromMarch days)

theorem monthFromMarch_bounds : 0 ≤ monthFromMarch days ∧ monthFromMarch days < 12 := by
  have hlt := dayFromMarch_lt days
  exact monthOfDay_bounds (dayFromMarch_nonneg days) (by split at hlt <;> omega)

theorem ofDayNumber_eq :
    ofDayNumber days = ofMarch (yearFromMarch days) (monthFromMarch days)
      (dayFromMarch days - monthStart (monthFromMarch days) + 1) := by
  obtain ⟨low, high⟩ := dayOfCycle_bounds days
  have hyear := yearOfCycle_bounds low high
  have hday : dayOfCycle days - (365 * yearOfCycle (dayOfCycle days) +
      yearOfCycle (dayOfCycle days) / 4 - yearOfCycle (dayOfCycle days) / 100) =
        dayFromMarch days := by
    rw [dayFromMarch_eq, yearStart]
    omega
  have hmonth := monthFromMarch_bounds days
  unfold yearOfCycle dayOfCycle at hday
  simp only [ofDayNumber, hday]
  change (⟨if (if monthFromMarch days < 10 then monthFromMarch days + 3 else
      monthFromMarch days - 9) ≤ 2 then yearFromMarch days + 1 else yearFromMarch days,
    _, _⟩ : Civil) = _
  unfold ofMarch
  congr 1
  split <;> split <;> omega

/-- Counting to the date of a day gives the day. -/
theorem dayNumber_ofDayNumber : (ofDayNumber days).dayNumber = days := by
  have hmonth := monthFromMarch_bounds days
  have hle : monthStart (monthFromMarch days) ≤ dayFromMarch days := monthStart_monthOfDay_le _
  have hday : dayFromMarch days = days + epochOffset - yearStart (yearFromMarch days) := rfl
  rw [dayNumber_eq, ofDayNumber_eq, marchYear_ofMarch hmonth.1 hmonth.2,
    marchMonth_ofMarch hmonth.1 hmonth.2]
  simp only [ofMarch]
  omega

/-- The date of a day lies in its month. -/
theorem day_ofDayNumber_le :
    (ofDayNumber days).day ≤ daysInMonth (ofDayNumber days).year (ofDayNumber days).month := by
  have hmonth := monthFromMarch_bounds days
  have hle : monthStart (monthFromMarch days) ≤ dayFromMarch days := monthStart_monthOfDay_le _
  have hlt : dayFromMarch days < monthStart (monthFromMarch days + 1) :=
    lt_monthStart_monthOfDay _
  rw [ofDayNumber_eq]
  by_cases hlast : monthFromMarch days = 11
  · -- February ends with the year from March
    have hyear := dayFromMarch_lt days
    rw [hlast] at hle ⊢
    rw [daysInMonth_ofMarch_last]
    simp only [ofMarch, monthStart] at *
    split at hyear <;> simp_all <;> omega
  · have hlength := @daysInMonth_ofMarch (yearFromMarch days) _
      (dayFromMarch days - monthStart (monthFromMarch days) + 1) hmonth.1 hmonth.2 hlast
    simp only [ofMarch] at *
    omega

theorem isValid_ofDayNumber : (ofDayNumber days).isValid := by
  have hmonth := monthFromMarch_bounds days
  have hle : monthStart (monthFromMarch days) ≤ dayFromMarch days := monthStart_monthOfDay_le _
  have hday := day_ofDayNumber_le days
  simp only [isValid, Bool.and_eq_true, decide_eq_true_eq]
  rw [ofDayNumber_eq] at *
  refine ⟨⟨month_ofMarch_bounds hmonth.1 hmonth.2, ?_⟩, hday⟩
  simp only [ofMarch]
  omega

theorem year_ofDayNumber :
    (ofDayNumber days).year =
      if monthFromMarch days < 10 then yearFromMarch days else yearFromMarch days + 1 := by
  rw [ofDayNumber_eq]
  rfl

end Days

/-- A day lies in a year or behind it from the first of January on. -/
theorem le_year_ofDayNumber_iff {year days : Int} :
    year ≤ (ofDayNumber days).year ↔ dayNumber ⟨year, 1, 1⟩ ≤ days := by
  have hnonneg := dayFromMarch_nonneg days
  have hlt := dayFromMarch_lt days
  have hday : dayFromMarch days = days + epochOffset - yearStart (yearFromMarch days) := rfl
  have hnext := yearStart_succ (yearFromMarch days)
  -- the new year is 306 days behind the start of March
  have hmonth : monthFromMarch days < 10 ↔ dayFromMarch days < 306 := by
    unfold monthFromMarch monthOfDay
    omega
  have hnewYear : dayNumber ⟨year, 1, 1⟩ = yearStart (year - 1) + 306 - epochOffset := by
    have hcount : dayNumber ⟨year, 1, 1⟩ =
        yearStart (year - 1) + monthStart 10 + 1 - 1 - epochOffset := dayNumber_eq ⟨year, 1, 1⟩
    have hmarch : monthStart 10 = 306 := by decide
    omega
  rw [year_ofDayNumber, hnewYear]
  have hyear : year - 1 < yearFromMarch days ∨ year - 1 = yearFromMarch days ∨
      yearFromMarch days + 1 ≤ year - 1 := by omega
  rcases hyear with hbefore | hsame | hbehind
  · have hstart := yearStart_mono (y := year) (z := yearFromMarch days) (by omega)
    have hlong := yearStart_succ (year - 1)
    rw [Int.sub_add_cancel] at hlong
    split at hlong <;> split <;> omega
  · rw [hsame]
    split <;> omega
  · have hstart := yearStart_mono hbehind
    split at hnext <;> split <;> omega

end Civil

theorem daysInMonth_le (year : Int) (month : Nat) : daysInMonth year month ≤ 31 := by
  unfold daysInMonth
  split
  · split <;> decide
  all_goals decide

/-! ### Years of four digits -/

/-- Whether a day lies in the years 0000 to 9999. -/
def HasFourDigitYear (days : Int) : Prop :=
  0 ≤ (Civil.ofDayNumber days).year ∧ (Civil.ofDayNumber days).year ≤ 9999

instance (days : Int) : Decidable (HasFourDigitYear days) := inferInstanceAs (Decidable (_ ∧ _))

theorem dayNumber_first_of_0000 : Civil.dayNumber ⟨0, 1, 1⟩ = -719528 := by decide

theorem dayNumber_last_of_9999 : Civil.dayNumber ⟨9999, 12, 31⟩ = 2932896 := by decide

theorem hasFourDigitYear_iff {days : Int} :
    HasFourDigitYear days ↔
      Civil.dayNumber ⟨0, 1, 1⟩ ≤ days ∧ days ≤ Civil.dayNumber ⟨9999, 12, 31⟩ := by
  have hend : Civil.dayNumber ⟨10000, 1, 1⟩ = Civil.dayNumber ⟨9999, 12, 31⟩ + 1 := by decide
  have hlast := @Civil.le_year_ofDayNumber_iff 10000 days
  rw [HasFourDigitYear, Civil.le_year_ofDayNumber_iff]
  omega

/-! ### Days that can be shown -/

/-- Whether a day lies in the years that dates can be shown in. -/
def IsShown (days : Int) : Prop :=
  Civil.dayNumber ⟨-262143, 1, 1⟩ ≤ days ∧ days < Civil.dayNumber ⟨262143, 1, 1⟩

instance (days : Int) : Decidable (IsShown days) := inferInstanceAs (Decidable (_ ∧ _))

theorem dayNumber_first_shown : Civil.dayNumber ⟨-262143, 1, 1⟩ = -96465292 := by decide

theorem dayNumber_end_shown : Civil.dayNumber ⟨262143, 1, 1⟩ = 95026237 := by decide

theorem isShowable_ofDayNumber_iff {days : Int} :
    (Civil.ofDayNumber days).isShowable ↔ IsShown days := by
  have hend := @Civil.le_year_ofDayNumber_iff 262143 days
  simp only [Civil.isShowable, Bool.and_eq_true, decide_eq_true_eq]
  rw [Civil.le_year_ofDayNumber_iff, IsShown]
  omega

end ColumnDispatch.Calendar
