import ColumnDispatch.Calendar.Printer
import ColumnDispatch.Checked
import ColumnDispatch.Proofs.Calendar.DayCount

/-! Days and their starts. Every instant of 64 bits falls on one day, and that day fits in 32 bits;
not every day has its start in 64 bits. A day is not behind that of an instant exactly if its start
is not behind the instant, so taking the day and taking the start are adjoint: days keep the order
of instants, and the start of the day of an instant is the last midnight that is not behind it. -/

namespace ColumnDispatch.Calendar

/-- The instant falls on the day. -/
def FallsOn (t : Int64) (day : Int32) : Prop :=
  day.toInt * microsPerDay ≤ t.toInt ∧ t.toInt < (day.toInt + 1) * microsPerDay

/-- The instant is the start of the day. -/
def IsStartOf (t : Int64) (day : Int32) : Prop := t.toInt = day.toInt * microsPerDay

/-- The start of the day fits in 64 bits. -/
def HasStart (day : Int32) : Prop := Checked.Fits (day.toInt * microsPerDay)

instance (t : Int64) (day : Int32) : Decidable (FallsOn t day) :=
  inferInstanceAs (Decidable (_ ∧ _))

instance (t : Int64) (day : Int32) : Decidable (IsStartOf t day) :=
  inferInstanceAs (Decidable (_ = _))

instance (day : Int32) : Decidable (HasStart day) := inferInstanceAs (Decidable (Checked.Fits _))

/-- The last midnight that is not behind the instant. -/
structure IsLastMidnight (t midnight : Int64) : Prop where
  isMidnight : midnight.toInt % microsPerDay = 0
  le : midnight.toInt ≤ t.toInt
  last : ∀ other : Int64, other.toInt % microsPerDay = 0 → other.toInt ≤ t.toInt →
    other.toInt ≤ midnight.toInt

theorem microsPerDay_eq : microsPerDay = 86400000000 := rfl

variable {t start : Int64} {day other : Int32}

theorem fallsOn_iff : FallsOn t day ↔ day.toInt = t.toInt / microsPerDay := by
  rw [FallsOn, microsPerDay_eq]
  omega

/-- The day of an instant fits in 32 bits. -/
theorem toInt_day (t : Int64) :
    (Int32.ofInt (t.toInt / microsPerDay)).toInt = t.toInt / microsPerDay := by
  have hlow := t.le_toInt
  have hhigh := t.toInt_lt
  rw [microsPerDay_eq]
  exact Int32.toInt_ofInt_of_le (by omega) (by omega)

theorem FallsOn.ofInt_eq (h : FallsOn t day) : Int32.ofInt (t.toInt / microsPerDay) = day := by
  rw [← fallsOn_iff.1 h, Int32.ofInt_toInt]

theorem IsStartOf.fallsOn (h : IsStartOf t day) : FallsOn t day := by
  rw [IsStartOf, microsPerDay_eq] at h
  rw [FallsOn, microsPerDay_eq]
  omega

/-- Taking the day of an instant and taking the start of a day are adjoint. -/
theorem FallsOn.le_iff (h : FallsOn t day) (hstart : IsStartOf start other) :
    other.toInt ≤ day.toInt ↔ start.toInt ≤ t.toInt := by
  rw [fallsOn_iff.1 h, hstart]
  exact Int.le_ediv_iff_mul_le (by decide)

/-- Starts stand to each other as their days do. -/
theorem IsStartOf.lt_iff (h : IsStartOf t day) (hstart : IsStartOf start other) :
    t.toInt < start.toInt ↔ day.toInt < other.toInt := by
  rw [h, hstart, microsPerDay_eq]
  omega

/-- Days keep the order of instants. -/
theorem FallsOn.mono {s : Int64} (hs : FallsOn s other) (ht : FallsOn t day)
    (h : s.toInt ≤ t.toInt) : other.toInt ≤ day.toInt := by
  rw [fallsOn_iff.1 hs, fallsOn_iff.1 ht]
  exact Int.ediv_le_ediv (by decide) h

theorem FallsOn.isLastMidnight (h : FallsOn t day) (hstart : IsStartOf start day) :
    IsLastMidnight t start where
  isMidnight := hstart ▸ Int.mul_emod_left _ _
  le := (h.le_iff hstart).1 (Int.le_refl _)
  last other hmidnight hle := by
    have hquotient := Int.ediv_le_ediv (c := microsPerDay) (by decide) hle
    have hother := Int.mul_ediv_add_emod other.toInt microsPerDay
    rw [hstart, fallsOn_iff.1 h, ← hother, hmidnight, Int.add_zero, Int.mul_comm]
    exact Int.mul_le_mul_of_nonneg_right hquotient (by decide)

theorem FallsOn.isShown_iff (h : FallsOn t day) :
    IsShown (t.toInt / microsPerDay) ↔ IsShown day.toInt := by
  rw [fallsOn_iff.1 h]

/-- Days that can be shown have a start. -/
theorem IsShown.hasStart (h : IsShown day.toInt) : HasStart day := by
  rw [IsShown, dayNumber_first_shown, dayNumber_end_shown] at h
  rw [HasStart, Checked.Fits, microsPerDay_eq]
  omega

end ColumnDispatch.Calendar
