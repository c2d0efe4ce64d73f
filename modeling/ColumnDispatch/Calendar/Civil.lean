/-! The proleptic Gregorian calendar. A date is counted in days from the start of 1970. The count
runs over years that begin in March, so that the leap day comes last, in cycles of 400 years, each
of 146097 days. -/

namespace ColumnDispatch.Calendar

structure Civil where
  year : Int
  month : Nat
  day : Nat
  deriving DecidableEq, Repr

def isLeapYear (year : Int) : Bool := year % 4 = 0 && (year % 100 ≠ 0 || year % 400 = 0)

def daysInMonth (year : Int) (month : Nat) : Nat :=
  match month with
  | 2 => if isLeapYear year then 29 else 28
  | 4 | 6 | 9 | 11 => 30
  | _ => 31

def daysPerCycle : Int := 146097

/-- The days from the March that begins a cycle, in the year 0, to the start of 1970. -/
def epochOffset : Int := 719468

namespace Civil

def isValid (c : Civil) : Bool :=
  1 ≤ c.month && c.month ≤ 12 && 1 ≤ c.day && c.day ≤ daysInMonth c.year c.month

/-- The days from the start of 1970 to the date. -/
def dayNumber (c : Civil) : Int :=
  let marchYear := if c.month ≤ 2 then c.year - 1 else c.year
  let marchMonth : Int := if c.month ≤ 2 then c.month + 9 else c.month - 3
  let cycle := marchYear / 400
  let yearOfCycle := marchYear % 400
  let dayOfYear := (153 * marchMonth + 2) / 5 + c.day - 1
  let dayOfCycle := yearOfCycle * 365 + yearOfCycle / 4 - yearOfCycle / 100 + dayOfYear
  cycle * daysPerCycle + dayOfCycle - epochOffset

/-- The date that many days from the start of 1970. -/
def ofDayNumber (days : Int) : Civil :=
  let shifted := days + epochOffset
  let cycle := shifted / daysPerCycle
  let dayOfCycle := shifted % daysPerCycle
  let yearOfCycle :=
    (dayOfCycle - dayOfCycle / 1460 + dayOfCycle / 36524 - dayOfCycle / 146096) / 365
  let dayOfYear := dayOfCycle - (365 * yearOfCycle + yearOfCycle / 4 - yearOfCycle / 100)
  let marchMonth := (5 * dayOfYear + 2) / 153
  let day := dayOfYear - (153 * marchMonth + 2) / 5 + 1
  let month := if marchMonth < 10 then marchMonth + 3 else marchMonth - 9
  let marchYear := cycle * 400 + yearOfCycle
  ⟨if month ≤ 2 then marchYear + 1 else marchYear, month.toNat, day.toNat⟩

/-- The years that dates can be shown in. -/
def isShowable (c : Civil) : Bool := -262143 ≤ c.year && c.year ≤ 262142

end Civil

end ColumnDispatch.Calendar
