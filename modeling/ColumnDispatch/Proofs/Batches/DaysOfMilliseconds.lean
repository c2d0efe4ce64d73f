import ColumnDispatch.Proofs.Batches.Normalization
import ColumnDispatch.Proofs.Kernels.DayCasts

/-! Dates that are held in milliseconds. Their days are counted toward zero and cut to 32 bits. This
is the day that the instant falls on from 1970 on and at midnights, as long as the day fits; any
other instant before 1970 gets the day after its own. The same instants as timestamps are cast to
the day that they fall on, so the two ways differ there. Main statement:
`Registry.days_of_milliseconds`. -/

namespace ColumnDispatch

open Calendar Kernel

namespace Column

/-- The instant falls on the day. -/
def FallsOnDay (ms : Int64) (day : Int32) : Prop :=
  day.toInt * millisecondsPerDay ≤ ms.toInt ∧ ms.toInt < (day.toInt + 1) * millisecondsPerDay

/-- The instant lies at or behind the start of 1970, or is a midnight. -/
def RoundsDown (ms : Int64) : Prop := 0 ≤ ms.toInt ∨ millisecondsPerDay ∣ ms.toInt

/-- The day of the instant fits in 32 bits. -/
def HasDay (ms : Int64) : Prop :=
  -2 ^ 31 ≤ ms.toInt / millisecondsPerDay ∧ ms.toInt / millisecondsPerDay < 2 ^ 31

/-- The day that a date in milliseconds becomes. -/
structure BecomesDay (ms : Int64) (day : Int32) : Prop where
  toInt_eq : day.toInt = (ms.toInt.tdiv millisecondsPerDay).bmod (2 ^ 32)
  fallsOnDay_iff : FallsOnDay ms day ↔ RoundsDown ms ∧ HasDay ms
  toInt_eq_dayAfter : ¬RoundsDown ms → HasDay ms → day.toInt = ms.toInt / millisecondsPerDay + 1

instance (ms : Int64) (day : Int32) : Decidable (FallsOnDay ms day) :=
  inferInstanceAs (Decidable (_ ∧ _))

instance (ms : Int64) : Decidable (RoundsDown ms) := inferInstanceAs (Decidable (_ ∨ _))

instance (ms : Int64) : Decidable (HasDay ms) := inferInstanceAs (Decidable (_ ∧ _))

theorem millisecondsPerDay_eq : millisecondsPerDay = 86400000 := rfl

variable {ms ms' : Int64} {day day' : Int32}

theorem fallsOnDay_iff_eq : FallsOnDay ms day ↔ day.toInt = ms.toInt / millisecondsPerDay := by
  rw [FallsOnDay, millisecondsPerDay_eq]
  omega

theorem FallsOnDay.hasDay (h : FallsOnDay ms day) : HasDay ms := by
  rw [HasDay, ← fallsOnDay_iff_eq.1 h]
  exact ⟨day.le_toInt, day.toInt_lt⟩

/-- Counting days toward zero goes to the day after if it does not go down. -/
theorem tdiv_eq_or (ms : Int64) :
    (RoundsDown ms ∧
      ms.toInt.tdiv millisecondsPerDay = ms.toInt / millisecondsPerDay) ∨
    (¬RoundsDown ms ∧ ms.toInt < 0 ∧
      ms.toInt.tdiv millisecondsPerDay = ms.toInt / millisecondsPerDay + 1) := by
  rw [Int.tdiv_eq_ediv]
  by_cases h : 0 ≤ ms.toInt ∨ millisecondsPerDay ∣ ms.toInt
  · rw [if_pos h, Int.add_zero]
    exact .inl ⟨h, rfl⟩
  · rw [if_neg h]
    exact .inr ⟨h, Int.not_le.1 fun hle => h (.inl hle), rfl⟩

theorem becomesDay (ms : Int64) : BecomesDay ms (dayOfMilliseconds ms) := by
  have hword : (dayOfMilliseconds ms).toInt =
      (ms.toInt.tdiv millisecondsPerDay).bmod (2 ^ 32) := Int32.toInt_ofInt
  have hlow := (dayOfMilliseconds ms).le_toInt
  have hhigh := (dayOfMilliseconds ms).toInt_lt
  -- the word is off the count by whole turns of 32 bits
  obtain ⟨turns, hturns⟩ := Int.dvd_bmod_sub_self (x := ms.toInt.tdiv millisecondsPerDay)
    (m := 2 ^ 32)
  rw [← hword] at hturns
  refine ⟨hword, ?_, ?_⟩
  · rw [fallsOnDay_iff_eq, HasDay]
    rcases tdiv_eq_or ms with ⟨hdown, hcount⟩ | ⟨hdown, -, hcount⟩
    · rw [and_iff_right hdown]
      omega
    · exact iff_of_false (by omega) fun h => hdown h.1
  · intro hup hday
    rcases tdiv_eq_or ms with ⟨hdown, -⟩ | ⟨-, hneg, hcount⟩
    · exact absurd hdown hup
    · unfold HasDay at hday
      rw [millisecondsPerDay_eq] at *
      omega

/-- Instants whose day fits in 32 bits are counted exactly. -/
theorem BecomesDay.toInt_eq_tdiv (h : BecomesDay ms day) (hday : HasDay ms) :
    day.toInt = ms.toInt.tdiv millisecondsPerDay := by
  rcases tdiv_eq_or ms with ⟨hdown, hcount⟩ | ⟨hup, -, hcount⟩
  · rw [hcount, fallsOnDay_iff_eq.1 (h.fallsOnDay_iff.2 ⟨hdown, hday⟩)]
  · rw [hcount, h.toInt_eq_dayAfter hup hday]

theorem BecomesDay.mono (h : BecomesDay ms day) (h' : BecomesDay ms' day') (hday : HasDay ms)
    (hday' : HasDay ms') (hle : ms.toInt ≤ ms'.toInt) : day.toInt ≤ day'.toInt := by
  rw [h.toInt_eq_tdiv hday, h'.toInt_eq_tdiv hday']
  exact Int.tdiv_le_tdiv (by decide) hle

/-- The day that an instant falls on is the one that it becomes if it is counted down. -/
theorem BecomesDay.eq_iff (h : BecomesDay ms day) (hday' : FallsOnDay ms day') :
    day = day' ↔ RoundsDown ms := by
  rw [← Int32.toInt_inj, fallsOnDay_iff_eq.1 hday', ← fallsOnDay_iff_eq, h.fallsOnDay_iff,
    and_iff_left hday'.hasDay]

/-- The day of an instant in microseconds is that of its milliseconds. -/
theorem fallsOnDay_of_toMicroseconds {t : Int64} (h : toMicroseconds .millisecond ms = some t)
    (hday : FallsOn t day) : FallsOnDay ms day := by
  have hexact : wholeMicros .millisecond ms * _ = _ := wholeMicros_exact (by decide) ms
  rw [← toMicroseconds_eq_some_iff.1 h] at hexact
  unfold FallsOn at hday
  unfold FallsOnDay
  simp only [millisecondsPerDay_eq, microsPerDay_eq, TimeUnit.perSecond] at *
  omega

end Column

/-! ### Dates and timestamps -/

namespace Batch

theorem ofColumn_date64 (cells : List (Option Int64)) :
    ofColumn ⟨.date64, cells⟩ = .ok (.ofDays (cells.map (·.map Column.dayOfMilliseconds))) := rfl

end Batch

namespace Registry

open Column

/-- Dates in milliseconds become days that are counted toward zero. -/
theorem days_of_milliseconds (columns : LogicalType → Column) (cells : List (Option Int64)) :
    let cast (target : LogicalType) (b : Batch) :=
      (builtin.invoke (.binary .cast b ⟨target, columns target⟩)).result
    ∃ days, Batch.ofColumn ⟨.date64, cells⟩ = .ok (.ofDays days) ∧
      Related BecomesDay cells days ∧
      (∀ (i j : Nat) (ms ms' : Int64) (day day' : Int32),
        cells[i]? = some (some ms) → cells[j]? = some (some ms') →
        days[i]? = some (some day) → days[j]? = some (some day') →
          HasDay ms → HasDay ms' → ms.toInt ≤ ms'.toInt → day.toInt ≤ day'.toInt) ∧
      ∀ instants v, Batch.ofColumn ⟨.timestamp .millisecond none, cells⟩ = .ok instants →
        cast .date instants = .ok v → ∃ days', v = .ofDays days' ∧
          ∀ (i : Nat) (ms : Int64) (day day' : Int32), cells[i]? = some (some ms) →
            days[i]? = some (some day) → days'[i]? = some (some day') →
              FallsOnDay ms day' ∧ (day = day' ↔ RoundsDown ms) := by
  intro cast
  have hbecomes : Related BecomesDay cells (cells.map (·.map dayOfMilliseconds)) :=
    related_map fun ms _ => becomesDay ms
  refine ⟨_, Batch.ofColumn_date64 cells, hbecomes, fun i j ms ms' day day' hms hms' hday hday' =>
    (hbecomes.of_rows hms hday).mono (hbecomes.of_rows hms' hday'),
    fun instants v hinstants hv => ?_⟩
  have hmicros := Batch.ofColumn_timestamps .millisecond none cells
  obtain rfl := Except.ok.inj (hmicros.symm.trans hinstants)
  have hcast := (invoke_cast_date _ (columns .date)).symm.trans hv
  obtain ⟨-, days', rfl, hfallsOn⟩ := castBatch_date_eq_ok_iff.1 hcast
  refine ⟨days', rfl, fun i ms day day' hms hday hday' => ?_⟩
  obtain ⟨t, ht, htday⟩ := hfallsOn.flip.exists_right hday'
  rw [getElem?_map_bind hms, Option.some.injEq] at ht
  have hmsday := fallsOnDay_of_toMicroseconds ht htday
  exact ⟨hmsday, (hbecomes.of_rows hms hday).eq_iff hmsday⟩

/-- The last millisecond before 1970 becomes the day after its own, and is cast to its own if it is
a timestamp. The instant whose day is the first one that needs more than 32 bits becomes the first
day of all. -/
theorem day_before_1970_lost :
    Batch.ofColumn ⟨.date64, [some (-1)]⟩ = .ok (.ofDays [some 0]) ∧
    FallsOnDay (-1) (-1) ∧ ¬FallsOnDay (-1) 0 ∧
    (∃ instants, Batch.ofColumn ⟨.timestamp .millisecond none, [some (-1)]⟩ = .ok instants ∧
      (builtin.invoke (.binary .cast instants (.empty .date))).result = .ok (.ofDays [some (-1)])) ∧
    Batch.ofColumn ⟨.date64, [some 185542587187200000]⟩ = .ok (.ofDays [some (-2147483648)]) ∧
    ¬FallsOnDay 185542587187200000 (-2147483648) := by
  have hmicros : toMicroseconds .millisecond (-1) = some (-1000) :=
    toMicroseconds_eq_some_iff.2 (by decide)
  have hfallsOn : Related FallsOn [some (-1000)] [some (-1)] := .cons (.some (by decide)) .nil
  have hcast : castBatch .date (.ofTimestamps none [some (-1000)]) = .ok (.ofDays [some (-1)]) := by
    refine castBatch_date_eq_days_iff.2 ⟨fun t ht => ?_, hfallsOn⟩
    obtain rfl := Option.some.inj (List.mem_singleton.1 ht)
    decide
  refine ⟨rfl, by decide, by decide, ⟨.ofTimestamps none [some (-1000)], ?_, ?_⟩, rfl, by decide⟩
  · rw [Batch.ofColumn_timestamps, List.map_singleton, Option.bind_some, hmicros]
  · exact (invoke_cast_date _ _).trans hcast

end Registry

end ColumnDispatch
