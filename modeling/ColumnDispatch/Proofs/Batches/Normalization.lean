import ColumnDispatch.Proofs.Batches.Canonical
import ColumnDispatch.Proofs.Kernels.RelatedRows

/-! Columns that are brought to the canonical format of their type, row by row. Rows stay where they
are, a null stays null, and a value becomes null only if it is an instant whose microseconds do not
fit in 64 bits. Instants are counted in whole microseconds toward zero, whatever their unit and time
zone, so an instant gives the same in every unit that has it, and instants keep their order. Main
statements: `Batch.nulls_of_normalization` and `Batch.timestamps_cohere`. -/

namespace ColumnDispatch

open Kernel

/-! ### Instants in microseconds -/

namespace Column

/-- The whole microseconds of an instant, toward zero. -/
def wholeMicros (unit : TimeUnit) (t : Int64) : Int :=
  (t.toInt * TimeUnit.microsecond.perSecond).tdiv unit.perSecond

/-- Two counts, each in a unit of its own, are of the same instant. -/
def SameInstant (unit unit' : TimeUnit) (t t' : Int64) : Prop :=
  t.toInt * unit'.perSecond = t'.toInt * unit.perSecond

instance (unit unit' : TimeUnit) (t t' : Int64) : Decidable (SameInstant unit unit' t t') :=
  inferInstanceAs (Decidable (_ = _))

theorem perSecond_pos (unit : TimeUnit) : 0 < unit.perSecond := by cases unit <;> decide

theorem perSecond_dvd {unit : TimeUnit} (h : unit ≠ .nanosecond) :
    unit.perSecond ∣ TimeUnit.microsecond.perSecond := by
  cases unit <;> first | decide | exact absurd rfl h

variable {unit unit' : TimeUnit} {t t' : Int64}

/-- A count of microseconds that is exact is the one that is taken. -/
theorem wholeMicros_of_exact {micros : Int}
    (h : micros * unit.perSecond = t.toInt * TimeUnit.microsecond.perSecond) :
    wholeMicros unit t = micros := by
  rw [wholeMicros, ← h]
  exact Int.mul_tdiv_cancel _ (Int.ne_of_gt (perSecond_pos unit))

/-- All units but nanoseconds are counted exactly. -/
theorem wholeMicros_exact (h : unit ≠ .nanosecond) (t : Int64) :
    wholeMicros unit t * unit.perSecond = t.toInt * TimeUnit.microsecond.perSecond := by
  rw [wholeMicros]
  exact Int.tdiv_mul_cancel (Int.dvd_mul_of_dvd_right (perSecond_dvd h))

theorem wholeMicros_nanosecond (t : Int64) : wholeMicros .nanosecond t = t.toInt.tdiv 1000 :=
  Int.mul_tdiv_mul_of_pos_left t.toInt 1000 (by decide)

theorem wholeMicros_eq_of_sameInstant (h : SameInstant unit unit' t t') :
    wholeMicros unit t = wholeMicros unit' t' := by
  let micros := TimeUnit.microsecond.perSecond
  have hcross : t.toInt * micros * unit'.perSecond = t'.toInt * micros * unit.perSecond := by
    rw [Int.mul_right_comm, h, Int.mul_right_comm]
  calc wholeMicros unit t
      = (t.toInt * micros * unit'.perSecond).tdiv (unit.perSecond * unit'.perSecond) :=
        (Int.mul_tdiv_mul_of_pos_left _ _ (perSecond_pos unit')).symm
    _ = (t'.toInt * micros * unit.perSecond).tdiv (unit'.perSecond * unit.perSecond) := by
        rw [hcross, Int.mul_comm unit.perSecond]
    _ = wholeMicros unit' t' := Int.mul_tdiv_mul_of_pos_left _ _ (perSecond_pos unit)

theorem wholeMicros_mono (h : t.toInt ≤ t'.toInt) : wholeMicros unit t ≤ wholeMicros unit t' :=
  Int.tdiv_le_tdiv (perSecond_pos unit) (Int.mul_le_mul_of_nonneg_right h (by decide))

theorem wholeMicros_strictMono (hunit : unit ≠ .nanosecond) (h : t.toInt < t'.toInt) :
    wholeMicros unit t < wholeMicros unit t' := by
  refine Int.lt_of_mul_lt_mul_right ?_ (Int.le_of_lt (perSecond_pos unit))
  rw [wholeMicros_exact hunit, wholeMicros_exact hunit]
  exact Int.mul_lt_mul_of_pos_right h (by decide)

theorem wholeMicros_nanosecond_eq (t : Int64) :
    wholeMicros .nanosecond t =
      t.toInt / 1000 + if 0 ≤ t.toInt ∨ 1000 ∣ t.toInt then 0 else 1 := by
  rw [wholeMicros_nanosecond, Int.tdiv_eq_ediv]
  rfl

/-- Counts of nanoseconds have their microseconds in 64 bits. -/
theorem fits_wholeMicros_nanosecond (t : Int64) : Checked.Fits (wholeMicros .nanosecond t) := by
  have hfits := Checked.fits_toInt t
  rw [wholeMicros_nanosecond_eq]
  unfold Checked.Fits at *
  split <;> omega

theorem fits_wholeMicros_microsecond (t : Int64) : Checked.Fits (wholeMicros .microsecond t) := by
  have hexact : wholeMicros .microsecond t = t.toInt := wholeMicros_of_exact rfl
  rw [hexact]
  exact Checked.fits_toInt t

/-- An instant is brought to microseconds if they fit. -/
theorem toMicroseconds_eq (unit : TimeUnit) (t : Int64) :
    toMicroseconds unit t = Checked.int64? (wholeMicros unit t) := by
  by_cases h : unit = .nanosecond
  · subst h
    have hword : Checked.int64? (wholeMicros .nanosecond t) =
        some (Int64.ofInt (wholeMicros .nanosecond t)) := if_pos (fits_wholeMicros_nanosecond t)
    rw [hword, wholeMicros_nanosecond]
    rfl
  · have hdvd := perSecond_dvd h
    rw [toMicroseconds, if_pos (Int.le_of_dvd (by decide) hdvd), wholeMicros,
      Int.mul_tdiv_assoc _ hdvd, Int.tdiv_eq_ediv_of_dvd hdvd]

theorem toMicroseconds_eq_some_iff {m : Int64} :
    toMicroseconds unit t = some m ↔ m.toInt = wholeMicros unit t := by
  rw [toMicroseconds_eq, Checked.int64?_eq_some_iff]

theorem toMicroseconds_eq_none_iff :
    toMicroseconds unit t = none ↔ ¬Checked.Fits (wholeMicros unit t) := by
  rw [toMicroseconds_eq, Checked.int64?_eq_none_iff_not_fits]

/-- The count of microseconds is less than one of them off a count of nanoseconds, toward zero. -/
structure CutsNanos (t micros : Int64) : Prop where
  near : (t.toInt - 1000 * micros.toInt).natAbs < 1000
  nonneg : 0 ≤ t.toInt → 0 ≤ micros.toInt
  nonpos : t.toInt ≤ 0 → micros.toInt ≤ 0

theorem cutsNanos_of_toMicroseconds {m : Int64} (h : toMicroseconds .nanosecond t = some m) :
    CutsNanos t m := by
  rw [toMicroseconds_eq_some_iff, wholeMicros_nanosecond_eq] at h
  split at h <;> constructor <;> omega

end Column

/-! ### Rows -/

/-- The value is an instant whose microseconds do not fit in 64 bits. -/
def Storage.Overflows : (s : Storage) → s.Cell → Prop
  | .timestamp unit _, t => ¬Checked.Fits (Column.wholeMicros unit t)
  | _, _ => False

/-- Only seconds and milliseconds go out of range. -/
theorem Storage.Overflows.unit_mem {s : Storage} {a : s.Cell} (h : s.Overflows a) :
    ∃ unit ∈ [TimeUnit.second, .millisecond], ∃ zone, s = .timestamp unit zone := by
  cases s with
  | int64 | float32 | float64 | boolean | utf8 | largeUtf8 | date32 | date64 | other => cases h
  | timestamp unit zone =>
    cases unit with
    | second => exact ⟨_, List.mem_cons_self, zone, rfl⟩
    | millisecond => exact ⟨_, List.mem_cons_of_mem _ List.mem_cons_self, zone, rfl⟩
    | microsecond => exact absurd (Column.fits_wholeMicros_microsecond a) h
    | nanosecond => exact absurd (Column.fits_wholeMicros_nanosecond a) h

namespace Batch

theorem map_bind_some {α β : Type} (f : α → β) (cells : List (Option α)) :
    cells.map (·.bind fun a => some (f a)) = cells.map (·.map f) := by
  simp only [Option.map_eq_bind]
  rfl

/-- A column is brought to the canonical format value by value. -/
theorem exists_ofColumn_rows {s : Storage} {t : LogicalType} (h : s.logical? = some t) :
    ∃ f : s.Cell → Option t.storage.Cell,
      (∀ cells, ofColumn ⟨s, cells⟩ = .ok (.ofCells t (cells.map (·.bind f)))) ∧
      ∀ a, f a = none ↔ s.Overflows a := by
  have hsame {α : Type} (cells : List (Option α)) : cells.map (·.bind some) = cells :=
    (map_bind_some id cells).trans (by simp)
  cases s with
  | int64 | float32 | float64 | boolean | utf8 | largeUtf8 | date32 =>
    obtain rfl := Option.some.inj h
    exact ⟨some, fun cells => congrArg (Except.ok ∘ ofCells _) (hsame cells).symm,
      fun a => iff_of_false nofun id⟩
  | date64 =>
    obtain rfl := Option.some.inj h
    exact ⟨fun ms => some (Column.dayOfMilliseconds ms), fun cells =>
      congrArg (Except.ok ∘ ofCells .date) (map_bind_some Column.dayOfMilliseconds cells).symm,
      fun a => iff_of_false nofun id⟩
  | timestamp unit zone =>
    obtain rfl := Option.some.inj h
    exact ⟨Column.toMicroseconds unit, ofColumn_timestamps unit zone, fun t =>
      Column.toMicroseconds_eq_none_iff⟩
  | other name => cases h

variable {c : Column} {b : Batch}

/-- A slice of a column is brought to the slice of the batch. -/
theorem map_ofColumn_slice? {t : LogicalType} (hlogical : c.storage.logical? = some t)
    (h : ofColumn c = .ok b) (offset length : Nat) :
    (c.slice? offset length).map ofColumn = (b.slice? offset length).map .ok := by
  obtain ⟨f, hrows, -⟩ := exists_ofColumn_rows hlogical
  obtain rfl := Except.ok.inj ((hrows c.cells).symm.trans h)
  have hlength : (ofCells t (c.cells.map (·.bind f))).column.length = c.length :=
    List.length_map _
  by_cases hfits : offset + length ≤ c.length
  · rw [Column.slice?, if_pos hfits, slice?, Column.slice?, if_pos (hlength ▸ hfits)]
    simp only [Option.map_some, hrows, List.map_take, List.map_drop]
    rfl
  · rw [Column.slice?, if_neg hfits, slice?, Column.slice?, if_neg (hlength ▸ hfits)]
    rfl

/-- Every column of a supported format makes a batch with the same rows. A row is null there if it
was, and if its value is an instant whose microseconds do not fit in 64 bits, which is then one in
seconds or milliseconds. -/
theorem nulls_of_normalization (c : Column) :
    (c.storage.logical? = none → ofColumn c = .error (.unsupportedType c.storage.name)) ∧
    ∀ t, c.storage.logical? = some t → ∃ b, ofColumn c = .ok b ∧ b.type = t ∧
      b.length = c.length ∧
      ∀ i, b.IsNullAt i ↔
        c.cells[i]? = some none ∨ ∃ a, c.cells[i]? = some (some a) ∧ c.storage.Overflows a ∧
          ∃ unit ∈ [TimeUnit.second, .millisecond], ∃ zone, c.storage = .timestamp unit zone := by
  refine ⟨fun h => ofColumn_eq_error_iff.2 ⟨h, rfl⟩, fun t h => ?_⟩
  obtain ⟨f, hrows, hnone⟩ := exists_ofColumn_rows h
  refine ⟨_, hrows c.cells, rfl, List.length_map _, fun i => ?_⟩
  have hrow : (ofCells t (c.cells.map (·.bind f))).IsNullAt i ↔
      ∃ x, c.cells[i]? = some x ∧ x.bind f = none := by
    rw [IsNullAt, ofCells, List.getElem?_map, Option.map_eq_some_iff]
  rw [hrow]
  constructor
  · rintro ⟨_ | a, hcell, hnull⟩
    · exact .inl hcell
    · have hoverflows := (hnone a).1 hnull
      exact .inr ⟨a, hcell, hoverflows, hoverflows.unit_mem⟩
  · rintro (hcell | ⟨a, hcell, hoverflows, -⟩)
    · exact ⟨none, hcell, rfl⟩
    · exact ⟨some a, hcell, (hnone a).2 hoverflows⟩

/-- An instant in seconds that is out of range becomes null. -/
theorem overflow_becomes_null :
    ofColumn ⟨.timestamp .second none, [some 9223372036854775807]⟩ = .ok (.nulls .timestamp 1) ∧
    ¬∀ c b, ofColumn c = .ok b →
      b.length = c.length ∧ ∀ i, b.IsNullAt i ↔ c.cells[i]? = some none := by
  have hnull : ofColumn ⟨.timestamp .second none, [some 9223372036854775807]⟩ =
      .ok (.nulls .timestamp 1) := by
    have hword : Column.toMicroseconds .second 9223372036854775807 = none :=
      Column.toMicroseconds_eq_none_iff.2 (by decide)
    rw [ofColumn_timestamps, List.map_singleton, Option.bind_some, hword]
    rfl
  refine ⟨hnull, fun hall => ?_⟩
  obtain ⟨-, hrows⟩ := hall _ _ hnull
  cases (hrows 0).1 rfl

/-- An instant is the same in all units that have it and in all time zones. Instants in one unit
keep their order, microseconds that fit are exact, and nanoseconds are cut toward zero. -/
theorem timestamps_cohere :
    (∀ unit unit' zone zone' (xs ys : List (Option Int64)),
      Related (Column.SameInstant unit unit') xs ys →
        ofColumn ⟨.timestamp unit zone, xs⟩ = ofColumn ⟨.timestamp unit' zone', ys⟩) ∧
    (∀ unit zone zone' (xs : List (Option Int64)),
      ofColumn ⟨.timestamp unit zone, xs⟩ = ofColumn ⟨.timestamp unit zone', xs⟩) ∧
    ∀ unit zone (xs : List (Option Int64)), ∃ cells,
      ofColumn ⟨.timestamp unit zone, xs⟩ = .ok (.ofTimestamps none cells) ∧
      cells.length = xs.length ∧
      (∀ (i : Nat) (t m : Int64), xs[i]? = some (some t) →
        m.toInt * unit.perSecond = t.toInt * TimeUnit.microsecond.perSecond →
          cells[i]? = some (some m)) ∧
      (∀ (i j : Nat) (s t m n : Int64), xs[i]? = some (some s) → xs[j]? = some (some t) →
        cells[i]? = some (some m) → cells[j]? = some (some n) →
          (s.toInt ≤ t.toInt → m.toInt ≤ n.toInt) ∧
          (unit ≠ .nanosecond → s.toInt < t.toInt → m.toInt < n.toInt)) ∧
      (unit = .nanosecond → Related Column.CutsNanos xs cells) ∧
      ∀ offset length, (Column.slice? ⟨.timestamp unit zone, xs⟩ offset length).map ofColumn =
        ((ofTimestamps none cells).slice? offset length).map .ok := by
  refine ⟨fun unit unit' zone zone' xs ys h => ?_, fun unit zone zone' xs => ?_,
    fun unit zone xs => ⟨_, ofColumn_timestamps unit zone xs, List.length_map _,
      fun i t m ht hexact => ?_, fun i j s t m n hs ht hm hn => ?_, fun hunit => ?_,
      map_ofColumn_slice? rfl (ofColumn_timestamps unit zone xs)⟩⟩
  · rw [ofColumn_timestamps, ofColumn_timestamps]
    refine congrArg (Except.ok ∘ ofTimestamps none) (h.map_bind_eq fun t t' hsame => ?_)
    rw [Column.toMicroseconds_eq, Column.toMicroseconds_eq,
      Column.wholeMicros_eq_of_sameInstant hsame]
  · rw [ofColumn_timestamps, ofColumn_timestamps]
  · have hword := Column.toMicroseconds_eq_some_iff.2 (Column.wholeMicros_of_exact hexact).symm
    rw [getElem?_map_bind ht, hword]
  · rw [getElem?_map_bind hs, Option.some.injEq, Column.toMicroseconds_eq_some_iff] at hm
    rw [getElem?_map_bind ht, Option.some.injEq, Column.toMicroseconds_eq_some_iff] at hn
    rw [hm, hn]
    exact ⟨Column.wholeMicros_mono, Column.wholeMicros_strictMono⟩
  · subst hunit
    refine related_bind fun t _ => ?_
    obtain ⟨m, hm⟩ := Checked.fits_iff_exists.1 (Column.fits_wholeMicros_nanosecond t)
    have hword := Column.toMicroseconds_eq_some_iff.2 hm
    exact ⟨m, hword, Column.cutsNanos_of_toMicroseconds hword⟩

/-- A second before 1970, counted in seconds of one zone and in nanoseconds of another. -/
theorem timestamps_cohere_before_1970 :
    Related (Column.SameInstant .second .nanosecond) [some (-1), none]
      [some (-1000000000), none] ∧
    ofColumn ⟨.timestamp .second (some "+02:00"), [some (-1), none]⟩ =
      ofColumn ⟨.timestamp .nanosecond none, [some (-1000000000), none]⟩ := by
  have hsame : Column.SameInstant .second .nanosecond (-1) (-1000000000) := by decide
  have hrelated : Related (Column.SameInstant .second .nanosecond) [some (-1), none]
      [some (-1000000000), none] := .cons (.some hsame) (.cons .none .nil)
  exact ⟨hrelated, timestamps_cohere.1 _ _ _ _ _ _ hrelated⟩

end Batch

end ColumnDispatch
