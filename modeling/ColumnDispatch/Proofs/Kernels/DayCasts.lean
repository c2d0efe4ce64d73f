import ColumnDispatch.Proofs.Calendar.Days
import ColumnDispatch.Proofs.Kernels.Casts
import ColumnDispatch.Proofs.Kernels.Comparisons
import ColumnDispatch.Proofs.Kernels.RelatedRows

/-! Casts between days and instants. An instant is cast to the day that it falls on if that day can
be shown, and fails otherwise; a day is cast to its start. The two casts are adjoint, for the
numbers and for what the comparisons answer, so both keep the order. Main statement:
`Registry.days_and_instants_adjoint`. -/

namespace ColumnDispatch

open Calendar

/-- A batch of days. -/
def Batch.ofDays (days : List (Option Int32)) : Batch := .ofCells .date days

namespace Kernel

/-! ### Values -/

/-- An instant of a day that cannot be shown. -/
def unshown (t : Int64) : Failure :=
  castFault
    s!"Cannot convert arrow_array::types::TimestampMicrosecondType {t.toInt} to datetime"

theorem dayOfTimestamp_eq (t : Int64) :
    dayOfTimestamp t =
      if IsShown (t.toInt / microsPerDay) then .ok (Int32.ofInt (t.toInt / microsPerDay))
      else .error (unshown t) := by
  simp only [dayOfTimestamp, isShowable_ofDayNumber_iff]
  rfl

theorem dayOfTimestamp_eq_ok_iff {t : Int64} {day : Int32} :
    dayOfTimestamp t = .ok day ↔ IsShown (t.toInt / microsPerDay) ∧ FallsOn t day := by
  rw [dayOfTimestamp_eq]
  split
  · rename_i hshown
    rw [Except.ok.injEq, fallsOn_iff]
    refine ⟨?_, fun h => ?_⟩
    · rintro rfl
      exact ⟨hshown, toInt_day t⟩
    · exact (fallsOn_iff.2 h.2).ofInt_eq
  · simp [*]

theorem isStartOf_timestampOfDay {day : Int32} (h : HasStart day) :
    IsStartOf (timestampOfDay day) day :=
  Checked.toInt_ofInt h.1 h.2

/-! ### Comparisons -/

namespace Comparison

/-- Days stand to each other as their starts do. -/
theorem onCells_isStartOf (c : Comparison) {day other : Int32} {start start' : Int64}
    (h : IsStartOf start day) (h' : IsStartOf start' other) :
    c.onCells LogicalType.date.storage day other =
      c.onCells LogicalType.timestamp.storage start start' := by
  refine congrArg c.holds ?_
  change compare day.toInt other.toInt = compare start.toInt start'.toInt
  simp only [Int.compare_eq_ite_lt, h.lt_iff h', h'.lt_iff h]

/-- The day of an instant is at least a day exactly if the instant is at or after its start. -/
theorem onCells_fallsOn {t start : Int64} {day other : Int32} (h : FallsOn t day)
    (h' : IsStartOf start other) :
    greaterEqual.onCells LogicalType.timestamp.storage t start =
      greaterEqual.onCells LogicalType.date.storage day other := by
  rw [Bool.eq_iff_iff]
  exact Int.isGE_compare.trans ((h.le_iff h').symm.trans Int.isGE_compare.symm)

theorem onCells_lessEqual_of_fallsOn {s t : Int64} {day other : Int32} (hs : FallsOn s day)
    (ht : FallsOn t other) (h : lessEqual.onCells LogicalType.timestamp.storage s t) :
    lessEqual.onCells LogicalType.date.storage day other :=
  Int.isLE_compare.2 (hs.mono ht (Int.isLE_compare.1 h))

theorem onCells_greaterEqual_of_fallsOn {s t : Int64} {day other : Int32} (hs : FallsOn s day)
    (ht : FallsOn t other) (h : greaterEqual.onCells LogicalType.timestamp.storage s t) :
    greaterEqual.onCells LogicalType.date.storage day other :=
  Int.isGE_compare.2 (ht.mono hs (Int.isGE_compare.1 h))

end Comparison

/-! ### Columns -/

section Columns

variable {ts : List (Option Int64)} {ds : List (Option Int32)}

theorem castBatch_date (ts : List (Option Int64)) :
    castBatch .date (.ofTimestamps none ts) = (eachRow (onPresent dayOfTimestamp) ts).map .ofDays :=
  @castBatch_ofCells .timestamp .date dayOfTimestamp (by decide) rfl ts

/-- Instants are cast to the days that they fall on. -/
theorem castBatch_date_eq_ok_iff {v : Batch} :
    castBatch .date (.ofTimestamps none ts) = .ok v ↔
      (∀ t, some t ∈ ts → IsShown (t.toInt / microsPerDay)) ∧
        ∃ days, v = .ofDays days ∧ Related FallsOn ts days := by
  rw [castBatch_date, except_map_eq_ok_iff]
  simp only [eachRow_onPresent_eq_ok_iff, dayOfTimestamp_eq_ok_iff, related_and_iff]
  constructor
  · rintro ⟨days, ⟨hshown, hdays⟩, rfl⟩
    exact ⟨hshown, days, rfl, hdays⟩
  · rintro ⟨hshown, days, rfl, hdays⟩
    exact ⟨days, ⟨hshown, hdays⟩, rfl⟩

/-- The cast fails for the first instant that cannot be shown. -/
theorem castBatch_date_eq_error {failure : Failure}
    (h : castBatch .date (.ofTimestamps none ts) = .error failure) :
    ∃ t, some t ∈ ts ∧ ¬IsShown (t.toInt / microsPerDay) ∧ failure = unshown t := by
  rw [castBatch_date, except_map_eq_error_iff] at h
  obtain ⟨i, x, hi, hx, -⟩ := exists_first_failure h
  match x with
  | none => cases hx
  | some t =>
    have ht := except_map_eq_error_iff.1 hx
    rw [dayOfTimestamp_eq] at ht
    split at ht
    · cases ht
    · exact ⟨t, List.mem_of_getElem? hi, ‹_›, (Except.error.inj ht).symm⟩

theorem exists_castBatch_date_iff :
    (∃ v, castBatch .date (.ofTimestamps none ts) = .ok v) ↔
      ∀ t, some t ∈ ts → IsShown (t.toInt / microsPerDay) := by
  constructor
  · rintro ⟨v, hv⟩
    exact (castBatch_date_eq_ok_iff.1 hv).1
  · intro hshown
    have hdays : Related FallsOn ts (ts.map (·.map fun t => .ofInt (t.toInt / microsPerDay))) :=
      related_map fun t _ => fallsOn_iff.2 (toInt_day t)
    exact ⟨_, castBatch_date_eq_ok_iff.2 ⟨hshown, _, rfl, hdays⟩⟩

/-- Days are cast to their starts. -/
theorem castBatch_timestamp (h : ∀ day, some day ∈ ds → HasStart day) :
    ∃ starts, castBatch .timestamp (.ofDays ds) = .ok (.ofTimestamps none starts) ∧
      Related (fun day start => IsStartOf start day) ds starts := by
  have hcast : castBatch .timestamp (.ofDays ds) =
      (eachRow (onPresent fun day => .ok (timestampOfDay day)) ds).map (.ofTimestamps none) :=
    @castBatch_ofCells .date .timestamp _ (by decide) rfl ds
  rw [eachRow_onPresent_ok] at hcast
  exact ⟨_, hcast, related_map fun day hday => isStartOf_timestampOfDay (h day hday)⟩

theorem castBatch_date_eq_days_iff :
    castBatch .date (.ofTimestamps none ts) = .ok (.ofDays ds) ↔
      (∀ t, some t ∈ ts → IsShown (t.toInt / microsPerDay)) ∧ Related FallsOn ts ds := by
  rw [castBatch_date_eq_ok_iff]
  constructor
  · rintro ⟨hshown, days, hdays, hfallsOn⟩
    cases hdays
    exact ⟨hshown, hfallsOn⟩
  · rintro ⟨hshown, hfallsOn⟩
    exact ⟨hshown, ds, rfl, hfallsOn⟩

/-- The starts of days are cast back to the days that can be shown. -/
theorem castBatch_date_starts_iff {starts : List (Option Int64)}
    (h : Related (fun day start => IsStartOf start day) ds starts) :
    castBatch .date (.ofTimestamps none starts) = .ok (.ofDays ds) ↔
      ∀ day, some day ∈ ds → IsShown day.toInt := by
  have hfallsOn : Related FallsOn starts ds := h.flip.imp fun _ _ => IsStartOf.fallsOn
  rw [castBatch_date_eq_days_iff, and_iff_left hfallsOn]
  exact hfallsOn.forall_iff fun _ _ => FallsOn.isShown_iff

/-- Instants that are cast to days are cast on to the last midnights not behind them. -/
theorem exists_castBatch_midnights (hshown : ∀ t, some t ∈ ts → IsShown (t.toInt / microsPerDay))
    (h : Related FallsOn ts ds) :
    ∃ midnights, castBatch .timestamp (.ofDays ds) = .ok (.ofTimestamps none midnights) ∧
      Related IsLastMidnight ts midnights := by
  have hdays := (h.forall_iff fun _ _ => FallsOn.isShown_iff).1 hshown
  obtain ⟨midnights, hmidnights, hstartsOf⟩ :=
    castBatch_timestamp fun day hday => (hdays day hday).hasStart
  exact ⟨midnights, hmidnights, h.trans hstartsOf fun _ _ _ => FallsOn.isLastMidnight⟩

end Columns

end Kernel

namespace Registry

open Kernel

/-! ### Invoked casts -/

theorem invoke_cast_date (ts : List (Option Int64)) (column : Column) :
    (builtin.invoke (.binary .cast (.ofTimestamps none ts) ⟨.date, column⟩)).result =
      castBatch .date (.ofTimestamps none ts) :=
  invoke_cast rfl rfl

theorem invoke_cast_timestamp (ds : List (Option Int32)) (column : Column) :
    (builtin.invoke (.binary .cast (.ofDays ds) ⟨.timestamp, column⟩)).result =
      castBatch .timestamp (.ofDays ds) :=
  invoke_cast rfl rfl

/-! ### Comparisons of related columns -/

section Related

variable {t u : LogicalType}

/-- A comparison of batches of one type, whatever their lengths. -/
theorem invoke_comparison_eq (c : Comparison) (xs ys : List (Option t.storage.Cell)) :
    (builtin.invoke (.binary c.operator (.ofCells t xs) (.ofCells t ys))).result =
      (ofSameLength xs ys (comparedLengths xs.length ys.length)
        (eachPair (onBothPresent fun a b => .ok (c.onCells t.storage a b)) xs ys)).map
          .ofTruths := by
  have hkernel : (builtin.invoke (.binary c.operator (.ofCells t xs) (.ofCells t ys))).result =
      c.kernel (.ofCells t xs) (.ofCells t ys) := invoke_comparison c rfl
  rw [hkernel]
  exact congrArg (Except.map Batch.ofTruths) (c.onColumns_same t.storage xs ys)

theorem length_eq_of_answers {c : Comparison} {xs ys : List (Option t.storage.Cell)} {i : Nat}
    {answer : Option Bool}
    (h : Answers (builtin.invoke (.binary c.operator (.ofCells t xs) (.ofCells t ys))).result i
      answer) : xs.length = ys.length := by
  by_contra hne
  obtain ⟨cells, hcells, -⟩ := h
  rw [invoke_comparison_eq, ofSameLength, if_neg hne] at hcells
  cases hcells

variable {R : t.storage.Cell → u.storage.Cell → Prop} {S : t.storage.Cell → u.storage.Cell → Prop}
  {xs ys : List (Option t.storage.Cell)} {xs' ys' : List (Option u.storage.Cell)}
  (hxs : Related R xs xs') (hys : Related S ys ys')

include hxs hys

/-- A comparison that decides related values alike has the same outcome on related columns. -/
theorem invoke_comparison_of_related {c : Comparison}
    (hc : ∀ a a' b b', R a a' → S b b' →
      c.onCells t.storage a b = c.onCells u.storage a' b') :
    (builtin.invoke (.binary c.operator (.ofCells t xs) (.ofCells t ys))).result =
      (builtin.invoke (.binary c.operator (.ofCells u xs') (.ofCells u ys'))).result := by
  have hrows := eachPair_onBothPresent_congr
    (fun a a' b b' ha hb => congrArg Except.ok (hc a a' b b' ha hb)) hxs hys
  rw [invoke_comparison_eq, invoke_comparison_eq, hrows]
  unfold ofSameLength
  rw [hxs.length_eq, hys.length_eq]

/-- A comparison that is true of values and then of those related to them is so of columns. -/
theorem answers_comparison_of_related {c : Comparison}
    (hc : ∀ a a' b b', R a a' → S b b' → c.onCells t.storage a b → c.onCells u.storage a' b')
    {i : Nat}
    (h : Answers (builtin.invoke (.binary c.operator (.ofCells t xs) (.ofCells t ys))).result i
      (some true)) :
    Answers (builtin.invoke (.binary c.operator (.ofCells u xs') (.ofCells u ys'))).result i
      (some true) := by
  have hlength := length_eq_of_answers h
  obtain ⟨r, hr, htrue⟩ := (answers_comparison_iff c hlength).1 h
  obtain ⟨⟨a, b⟩, rfl, hab⟩ := Option.map_eq_some_iff.1 htrue
  obtain ⟨ha, hb⟩ := getElem?_pairs_eq_some_iff.1 hr
  obtain ⟨a', ha', haa'⟩ := hxs.exists_right ha
  obtain ⟨b', hb', hbb'⟩ := hys.exists_right hb
  have hlength' : xs'.length = ys'.length := by rw [← hxs.length_eq, hlength, hys.length_eq]
  exact (answers_comparison_iff c hlength').2
    ⟨some (a', b'), getElem?_pairs_eq_some_iff.2 ⟨ha', hb'⟩,
      congrArg some (hc a a' b b' haa' hbb' hab)⟩

end Related

/-! ### Comparisons of days and instants -/

section Compared

variable {ts ts' starts starts' : List (Option Int64)} {ds ds' : List (Option Int32)}

/-- All comparisons have the same outcome for days and for their starts. -/
theorem invoke_comparison_starts (c : Comparison)
    (h : Related (fun day start => IsStartOf start day) ds starts)
    (h' : Related (fun day start => IsStartOf start day) ds' starts') :
    (builtin.invoke (.binary c.operator (.ofDays ds) (.ofDays ds'))).result =
      (builtin.invoke
        (.binary c.operator (.ofTimestamps none starts) (.ofTimestamps none starts'))).result :=
  invoke_comparison_of_related (t := .date) (u := .timestamp) h h'
    fun _ _ _ _ => c.onCells_isStartOf

theorem invoke_greaterEqual_days (h : Related FallsOn ts ds)
    (h' : Related (fun day start => IsStartOf start day) ds' starts) :
    (builtin.invoke (.binary Comparison.greaterEqual.operator (.ofDays ds) (.ofDays ds'))).result =
      (builtin.invoke (.binary Comparison.greaterEqual.operator (.ofTimestamps none ts)
        (.ofTimestamps none starts))).result :=
  (invoke_comparison_of_related (t := .timestamp) (u := .date) h h'.flip
    fun _ _ _ _ => Comparison.onCells_fallsOn).symm

/-- Instants in order fall on days in order. -/
theorem answers_days {c : Comparison} (hc : c ∈ [Comparison.lessEqual, .greaterEqual])
    (h : Related FallsOn ts ds) (h' : Related FallsOn ts' ds') {i : Nat}
    (htrue : Answers (builtin.invoke
      (.binary c.operator (.ofTimestamps none ts) (.ofTimestamps none ts'))).result i (some true)) :
    Answers (builtin.invoke (.binary c.operator (.ofDays ds) (.ofDays ds'))).result i
      (some true) := by
  refine answers_comparison_of_related (t := .timestamp) (u := .date) h h'
    (fun s day t other hs ht hst => ?_) htrue
  simp only [List.mem_cons, List.not_mem_nil, or_false] at hc
  rcases hc with rfl | rfl
  · exact Comparison.onCells_lessEqual_of_fallsOn hs ht hst
  · exact Comparison.onCells_greaterEqual_of_fallsOn hs ht hst

end Compared

/-- Casting instants to their days and days to their starts are adjoint. -/
theorem days_and_instants_adjoint (columns : LogicalType → Column) (ts : List (Option Int64))
    (ds : List (Option Int32)) (hds : ∀ day, some day ∈ ds → HasStart day) :
    let cast (target : LogicalType) (b : Batch) :=
      (builtin.invoke (.binary .cast b ⟨target, columns target⟩)).result
    let compared (c : Comparison) (left right : Batch) :=
      (builtin.invoke (.binary c.operator left right)).result
    ((∃ v, cast .date (.ofTimestamps none ts) = .ok v) ↔
      ∀ t, some t ∈ ts → IsShown (t.toInt / microsPerDay)) ∧
    (∀ failure, cast .date (.ofTimestamps none ts) = .error failure →
      ∃ t, some t ∈ ts ∧ ¬IsShown (t.toInt / microsPerDay) ∧ failure = unshown t) ∧
    ∃ starts, cast .timestamp (.ofDays ds) = .ok (.ofTimestamps none starts) ∧
      Related (fun day start => IsStartOf start day) ds starts ∧
      (cast .date (.ofTimestamps none starts) = .ok (.ofDays ds) ↔
        ∀ day, some day ∈ ds → IsShown day.toInt) ∧
      (∀ ds', (∀ day, some day ∈ ds' → HasStart day) → ∃ starts',
        cast .timestamp (.ofDays ds') = .ok (.ofTimestamps none starts') ∧
        ∀ c, compared c (.ofDays ds) (.ofDays ds') =
          compared c (.ofTimestamps none starts) (.ofTimestamps none starts')) ∧
      ∀ v, cast .date (.ofTimestamps none ts) = .ok v → ∃ days, v = .ofDays days ∧
        Related FallsOn ts days ∧
        (∃ midnights, cast .timestamp v = .ok (.ofTimestamps none midnights) ∧
          Related IsLastMidnight ts midnights) ∧
        compared .greaterEqual v (.ofDays ds) =
          compared .greaterEqual (.ofTimestamps none ts) (.ofTimestamps none starts) ∧
        ∀ ts' v', cast .date (.ofTimestamps none ts') = .ok v' →
          ∀ c ∈ [Comparison.lessEqual, .greaterEqual], ∀ i,
            Answers (compared c (.ofTimestamps none ts) (.ofTimestamps none ts')) i (some true) →
              Answers (compared c v v') i (some true) := by
  intro cast compared
  obtain ⟨starts, hstarts, hstartsOf⟩ := castBatch_timestamp hds
  simp only [cast, compared, invoke_cast_date, invoke_cast_timestamp]
  refine ⟨exists_castBatch_date_iff, fun failure => castBatch_date_eq_error, starts, hstarts,
    hstartsOf, castBatch_date_starts_iff hstartsOf, fun ds' hds' => ?_, fun v hv => ?_⟩
  · obtain ⟨starts', hstarts', hstartsOf'⟩ := castBatch_timestamp hds'
    exact ⟨starts', hstarts', fun c => invoke_comparison_starts c hstartsOf hstartsOf'⟩
  · obtain ⟨hshown, days, rfl, hdays⟩ := castBatch_date_eq_ok_iff.1 hv
    have hmidnights := exists_castBatch_midnights hshown hdays
    rw [← invoke_cast_timestamp days (columns .timestamp)] at hmidnights
    refine ⟨days, rfl, hdays, hmidnights, invoke_greaterEqual_days hdays hstartsOf,
      fun ts' v' hv' c hc i h => ?_⟩
    obtain ⟨-, days', rfl, hdays'⟩ := castBatch_date_eq_ok_iff.1 hv'
    exact answers_days hc hdays hdays' h

/-- The last microsecond before 1970 falls on the day before it, with a null behind it. -/
theorem days_and_instants_adjoint_before_1970 :
    (∀ day : Int32, some day ∈ [some (-1), some 0] → HasStart day) ∧
    ∃ starts days, Related FallsOn [some (-1), none] days ∧
      (builtin.invoke
        (.binary .cast (.ofTimestamps none [some (-1), none]) (.empty .date))).result =
        .ok (.ofDays days) ∧
      (builtin.invoke (.binary .cast (.ofDays [some (-1), some 0]) (.empty .timestamp))).result =
        .ok (.ofTimestamps none starts) ∧
      (builtin.invoke (.binary Comparison.greaterEqual.operator (.ofDays days)
        (.ofDays [some (-1), some 0]))).result =
      (builtin.invoke (.binary Comparison.greaterEqual.operator
        (.ofTimestamps none [some (-1), none]) (.ofTimestamps none starts))).result := by
  have hds : ∀ day : Int32, some day ∈ [some (-1), some 0] → HasStart day := by
    simp only [List.mem_cons, Option.some.injEq, List.not_mem_nil, or_false]
    rintro day (rfl | rfl) <;> decide
  obtain ⟨hcast, -, starts, hstarts, -, -, -, hdays⟩ := days_and_instants_adjoint
    (fun t => .empty t.storage) [some (-1), none] [some (-1), some 0] hds
  obtain ⟨v, hv⟩ := hcast.2 fun t ht => by
    simp only [List.mem_cons, Option.some.injEq, List.not_mem_nil, or_false, reduceCtorEq] at ht
    subst ht
    decide
  obtain ⟨days, rfl, hfallsOn, -, hcompared, -⟩ := hdays v hv
  exact ⟨hds, starts, days, hfallsOn, hv, hstarts, hcompared⟩

theorem invoke_cast_unshown {t : Int64} (h : ¬IsShown (t.toInt / microsPerDay)) :
    (builtin.invoke (.binary .cast (.ofTimestamps none [some t]) (.empty .date))).result =
      .error (unshown t) := by
  have hday : dayOfTimestamp t = .error (unshown t) := (dayOfTimestamp_eq t).trans (if_neg h)
  rw [Batch.empty, invoke_cast_date, castBatch_date, eachRow_singleton, onPresent, hday]
  rfl

/-- The last instant of 64 bits has a day of 32 bits and yet is not cast to it, and neither is the
start of its day, which the day is cast to. -/
theorem last_day_not_shown :
    HasStart 106751991 ∧ FallsOn 9223372036854775807 106751991 ∧
    (builtin.invoke (.binary .cast (.ofTimestamps none [some 9223372036854775807])
      (.empty .date))).result = .error (unshown 9223372036854775807) ∧
    (builtin.invoke (.binary .cast (.ofTimestamps none [some 9223372022400000000])
      (.empty .date))).result = .error (unshown 9223372022400000000) ∧
    IsStartOf 9223372022400000000 106751991 :=
  ⟨by decide, by decide, invoke_cast_unshown (by decide), invoke_cast_unshown (by decide),
    by decide⟩

end Registry

end ColumnDispatch
