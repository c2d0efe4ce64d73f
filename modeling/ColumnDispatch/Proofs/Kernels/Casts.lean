import ColumnDispatch.Proofs.Kernels.BuiltinCalls
import ColumnDispatch.Proofs.Registration.Introspection

/-! Casts between the types. The pairs of types that can be cast are those of `Builtin.isCastable`;
any other pair selects nothing. The second operand bears the target type and is not looked at
further. A cast keeps the nulls where they are and makes no others, and a cast that fails has a
value that fails on its own. Timestamps that still have a time zone lose it in a cast to their own
type, and are not cast to text or to dates if its label spells no offset. Main statement:
`Registry.casts_are_strict`. -/

namespace ColumnDispatch

open Kernel

namespace Kernel

/-- Running a function of values down the rows keeps the nulls and makes no others. -/
theorem null_iff_of_eachRow {α β : Type} {f : α → Except Failure β} {xs : List (Option α)}
    {ys : List (Option β)} (h : eachRow (onPresent f) xs = .ok ys) (i : Nat) :
    ys[i]? = some none ↔ xs[i]? = some none := by
  have hi := getElem?_of_eachRow h i
  rcases hx : xs[i]? with _ | _ | a
  · rw [hx, Option.map_none] at hi
    simp [Option.map_eq_none_iff.1 hi.symm]
  · rw [hx, Option.map_some] at hi
    obtain ⟨y, hy, hnone⟩ := Option.map_eq_some_iff.1 hi.symm
    obtain rfl : y = none := Except.ok.inj hnone
    simp [hy]
  · rw [hx, Option.map_some] at hi
    obtain ⟨y, hy, hvalue⟩ := Option.map_eq_some_iff.1 hi.symm
    obtain ⟨b, -, rfl⟩ := except_map_eq_ok_iff.1 hvalue.symm
    simp [hy]

/-- A cast to a type that converts the cells of a format one by one. -/
structure RowCast (s : Storage) (type target : LogicalType) where
  convert : s.Cell → Except Failure target.storage.Cell
  onlyFaults : OnlyFaults convert
  castBatch_eq : ∀ cells, castBatch target ⟨type, ⟨s, cells⟩⟩ =
    (eachRow (onPresent convert) cells).map (.ofCells target)

namespace RowCast

variable {s : Storage} {type target : LogicalType} (form : RowCast s type target)
  {cells : List (Option s.Cell)}

include form

theorem result {v : Batch} (h : castBatch target ⟨type, ⟨s, cells⟩⟩ = .ok v) :
    v.type = target ∧ v.IsCanonical ∧ v.length = cells.length ∧
      ∀ i, v.IsNullAt i ↔ cells[i]? = some none := by
  rw [form.castBatch_eq] at h
  obtain ⟨rows, hrows, rfl⟩ := except_map_eq_ok_iff.1 h
  exact ⟨rfl, rfl, length_of_eachRow hrows, null_iff_of_eachRow hrows⟩

theorem singleton (x : Option s.Cell) : castBatch target ⟨type, ⟨s, [x]⟩⟩ =
    (onPresent form.convert x).map fun y => .ofCells target [y] := by
  rw [form.castBatch_eq, eachRow_singleton]
  cases onPresent form.convert x <;> rfl

/-- A cast that fails does so for its first value to fail. -/
theorem first_value {failure : Failure}
    (h : castBatch target ⟨type, ⟨s, cells⟩⟩ = .error failure) :
    failure.IsCompute ∧ ∃ (i : Nat) (a : s.Cell), cells[i]? = some (some a) ∧
      castBatch target ⟨type, ⟨s, [some a]⟩⟩ = .error failure ∧
      ∀ j < i, ∀ x, cells[j]? = some x →
        ∃ v, castBatch target ⟨type, ⟨s, [x]⟩⟩ = .ok v := by
  rw [form.castBatch_eq] at h
  obtain ⟨i, x, hi, hx, hbefore⟩ := exists_first_failure (except_map_eq_error_iff.1 h)
  cases x with
  | none => cases hx
  | some a =>
    refine ⟨form.onlyFaults a failure (except_map_eq_error_iff.1 hx), i, a, hi, ?_,
      fun j hj x hx => ?_⟩
    · rw [form.singleton, hx]
      rfl
    · obtain ⟨y, hy⟩ := hbefore j hj x hx
      rw [form.singleton, hy]
      exact ⟨_, rfl⟩

end RowCast

/-- A label that spells no offset is at fault for all rows, and where there are none. -/
theorem castBatch_of_unreadable_zone {zone : String} {failure : Failure}
    (hzone : readZone zone = .error failure) (cells : List (Option Int64)) {target : LogicalType}
    (h : target = .string ∨ target = .date) :
    castBatch target (.ofTimestamps (some zone) cells) = .error failure := by
  have hconversion : conversion? (.timestamp .microsecond (some zone)) target =
      some (.error failure) := by
    rcases h with rfl | rfl
    · exact conversion?_string_zoned hzone
    · exact conversion?_date_zoned hzone
  have hcells : castCells target ⟨.timestamp .microsecond (some zone), cells⟩ =
      .error failure := by
    simp only [castCells, hconversion]
    rfl
  exact (if_neg (zoned_ne_storage zone target)).trans
    (congrArg (Except.map (Batch.ofCells target)) hcells)

/-- Whether a cast is a matter of the rows: the batch is canonical, or it is timestamps whose time
zone can be read if the cast is to text or to dates. -/
inductive CastsByRow : Batch → LogicalType → Prop
  | canonical {l : Batch} {target : LogicalType} (h : l.IsCanonical) : CastsByRow l target
  | zoned {zone : String} {cells : List (Option Int64)} {target : LogicalType}
      (h : target = .string ∨ target = .date → ∃ offset, readZone zone = .ok offset) :
      CastsByRow (.ofTimestamps (some zone) cells) target

theorem exists_zonedConversion {zone : String} {target : LogicalType}
    (hcastable : Builtin.isCastable .timestamp target)
    (h : target = .string ∨ target = .date → ∃ offset, readZone zone = .ok offset) :
    ∃ convert, conversion? (.timestamp .microsecond (some zone)) target =
      some (.ok convert) := by
  cases target with
  | string =>
    obtain ⟨offset, hoffset⟩ := h (.inl rfl)
    exact ⟨writeLocal zone offset, conversion?_string_zoned hoffset⟩
  | date =>
    obtain ⟨offset, hoffset⟩ := h (.inr rfl)
    exact ⟨localDay offset, conversion?_date_zoned hoffset⟩
  | timestamp => exact ⟨_, rfl⟩
  | int64 | float32 | float64 | bool => cases hcastable

theorem CastsByRow.slice {l part : Batch} {target : LogicalType} {offset length : Nat}
    (h : CastsByRow l target) (hpart : l.slice? offset length = some part) :
    CastsByRow part target := by
  obtain ⟨-, rfl⟩ := Batch.slice?_eq_some_iff.1 hpart
  cases h with
  | canonical h => exact .canonical h
  | zoned h => exact .zoned h

theorem CastsByRow.exists_rowCast {l : Batch} {target : LogicalType} (h : CastsByRow l target)
    (hcastable : Builtin.isCastable l.type target) :
    Nonempty (RowCast l.column.storage l.type target) := by
  cases h with
  | canonical h =>
    obtain ⟨form⟩ := exists_castForm hcastable
    obtain ⟨type, storage, cells⟩ := l
    obtain rfl : storage = type.storage := h
    exact ⟨form.value, form.onlyFaults, form.kernel_ofCells⟩
  | @zoned zone cells _ h =>
    obtain ⟨convert, hconvert⟩ := exists_zonedConversion hcastable h
    exact ⟨convert, onlyFaults_conversion? hconvert,
      castBatch_of_conversion (zoned_ne_storage zone target) hconvert .timestamp⟩

end Kernel

/-- One row of a batch. -/
theorem Batch.slice?_one_eq_some_iff {b row : Batch} {i : Nat} :
    b.slice? i 1 = some row ↔
      ∃ x, b.column.cells[i]? = some x ∧ row = ⟨b.type, ⟨b.column.storage, [x]⟩⟩ := by
  rw [Batch.slice?_eq_some_iff]
  constructor
  · rintro ⟨hi, rfl⟩
    obtain ⟨x, hx⟩ : ∃ x, b.column.cells[i]? = some x := ⟨_, List.getElem?_eq_getElem hi⟩
    exact ⟨x, hx, by rw [take_one_drop hx]⟩
  · rintro ⟨x, hx, rfl⟩
    exact ⟨(List.getElem?_eq_some_iff.1 hx).1, by rw [take_one_drop hx]⟩

/-! ### Pairs of types -/

theorem Builtin.mem_all_cast {source target : LogicalType} (h : isCastable source target) :
    binary .cast source target target (cast target) ∈ all := by
  have hmem : binary .cast source target target (cast target) ∈ casts :=
    List.mem_flatMap.2 ⟨source, source.mem_all,
      List.mem_map_of_mem (List.mem_filter.2 ⟨target.mem_all, h⟩)⟩
  simp [all, hmem]

/-- The overloads of the cast operator are the casts. -/
theorem Builtin.mem_casts_of_operator {o : Registration} (ho : o ∈ all)
    (hoperator : o.operator = .binary .cast) : o ∈ casts := by
  have hbefore : ∀ o ∈ arithmetic ++ comparison ++ logic ++ texts, o.operator ≠ .binary .cast := by
    decide
  have hbehind : ∀ o ∈ choices, o.operator ≠ .binary .cast := by decide
  rcases List.mem_append.1 ho with h | h
  · exact (List.mem_append.1 h).resolve_left fun h => hbefore o h hoperator
  · exact absurd hoperator (hbehind o h)

namespace Registry

variable {l right : Batch}

/-- Exactly the pairs of the table have an overload. -/
theorem exists_resolve_cast_iff {source target : LogicalType} :
    (∃ o, (builtin.resolve (.binary .cast source target)).result = .ok o) ↔
      Builtin.isCastable source target := by
  simp only [resolve_eq_ok_iff_fits holds_builtin .builtins]
  constructor
  · rintro ⟨o, ho, hfits⟩
    have hcast := Builtin.mem_casts_of_operator ho (Registration.operator_eq_of_fits hfits)
    simp only [Builtin.casts, List.mem_flatMap, List.mem_map, List.mem_filter] at hcast
    obtain ⟨source', -, target', ⟨-, hcastable⟩, rfl⟩ := hcast
    cases Registration.eq_of_fits_binary hfits
    exact hcastable
  · intro h
    exact ⟨_, Builtin.mem_all_cast h, by
      simp [Builtin.binary, Registration.fits, Registration.toBinary?]⟩

theorem selects_cast (h : Builtin.isCastable l.type right.type) :
    builtin.Selects (.binary .cast l right)
      (Builtin.binary .cast l.type right.type right.type (cast right.type)) :=
  (selects_iff holds_builtin).2 ⟨Builtin.mem_all_cast h, _, rfl,
    by simp [Builtin.binary, Registration.fits, Registration.toBinary?]⟩

/-- A cast has the outcome of the conversion to the type of the second operand, once the type of the
result is checked. -/
theorem invoke_cast_eq (h : Builtin.isCastable l.type right.type) :
    (builtin.invoke (.binary .cast l right)).result =
      (castBatch right.type l).bind (builtin.checkReturnType (.binary .cast) right.type) := by
  obtain ⟨outcome, houtcome, hinvoke⟩ :=
    invoke_of_selected ((select_eq_ok_iff holds_builtin).2 (selects_cast h))
  obtain rfl := Option.some.inj houtcome
  rw [hinvoke]
  rfl

theorem invoke_cast_of_eq (h : Builtin.isCastable l.type right.type) {v : Batch}
    (hcast : castBatch right.type l = .ok v) (htype : v.type = right.type) :
    (builtin.invoke (.binary .cast l right)).result = .ok v := by
  rw [invoke_cast_eq h, hcast]
  exact builtin.checkReturnType_of_eq _ htype

/-- What is cast row by row passes the check. -/
theorem invoke_castsByRow (hl : CastsByRow l right.type)
    (h : Builtin.isCastable l.type right.type) :
    (builtin.invoke (.binary .cast l right)).result = castBatch right.type l := by
  obtain ⟨form⟩ := hl.exists_rowCast h
  cases hcast : castBatch right.type l with
  | error failure =>
    rw [invoke_cast_eq h, hcast]
    rfl
  | ok v => exact invoke_cast_of_eq h hcast (form.result hcast).1

theorem invoke_cast (hl : l.IsCanonical) (h : Builtin.isCastable l.type right.type) :
    (builtin.invoke (.binary .cast l right)).result = castBatch right.type l :=
  invoke_castsByRow (.canonical hl) h

theorem invoke_cast_of_not_castable (h : ¬Builtin.isCastable l.type right.type) :
    (builtin.invoke (.binary .cast l right)).result =
      .error (.noMatchingOverload (.binary .cast) s!"{l.type}, {right.type}") := by
  cases hget : (builtin.tables.binary.get .cast).get? ⟨l.type, right.type⟩ with
  | none =>
    have hselect : (builtin.select (.binary .cast l right)).result =
        .error (.noMatchingOverload (.binary .cast) s!"{l.type}, {right.type}") := by
      rw [select, Traced.map_eq, resolveBinary_eq, hget]
      rfl
    rw [invoke_of_unselected hselect]
  | some o =>
    have hresolve : (builtin.resolve (.binary .cast l.type right.type)).result =
        .ok (.binary o) := by
      rw [resolve, Traced.map_eq, resolveBinary_eq, hget]
      rfl
    exact absurd (exists_resolve_cast_iff.1 ⟨_, hresolve⟩) h

/-- A cast to the type that the batch has gives the batch. -/
theorem invoke_cast_self (hl : l.IsCanonical) (h : right.type = l.type) :
    (builtin.invoke (.binary .cast l right)).result = .ok l := by
  have hcastable : Builtin.isCastable l.type right.type := by simp [h, Builtin.isCastable]
  have hstorage : l.column.storage = right.type.storage := h ▸ hl
  rw [invoke_cast hl hcastable, castBatch, if_pos hstorage]

/-- Timestamps that still have a time zone lose it, and keep their rows. -/
theorem invoke_cast_ofTimestamps (zone : Option String) (cells : List (Option Int64))
    (h : right.type = .timestamp) :
    (builtin.invoke (.binary .cast (.ofTimestamps zone cells) right)).result =
      .ok (.ofTimestamps none cells) := by
  have hcast : castBatch right.type (.ofTimestamps zone cells) =
      .ok (.ofTimestamps none cells) := by
    rw [h]
    cases zone with
    | none => rfl
    | some zone =>
      exact congrArg (Except.map (Batch.ofTimestamps none)) (eachRow_onPresent_self cells)
  have hcastable : Builtin.isCastable (Batch.ofTimestamps zone cells).type right.type := by
    simp [h, Builtin.isCastable, Batch.ofTimestamps]
  exact invoke_cast_of_eq hcastable hcast h.symm

theorem invoke_cast_of_unreadable_zone {zone : String} {failure : Failure}
    (hzone : readZone zone = .error failure) (cells : List (Option Int64))
    (h : right.type = .string ∨ right.type = .date) :
    (builtin.invoke (.binary .cast (.ofTimestamps (some zone) cells) right)).result =
      .error failure := by
  have hcastable : Builtin.isCastable (Batch.ofTimestamps (some zone) cells).type right.type := by
    rcases h with h | h <;> rw [h] <;> rfl
  rw [invoke_cast_eq hcastable, castBatch_of_unreadable_zone hzone cells h]
  rfl

/-- The second operand of a cast only bears a type. -/
theorem invoke_cast_congr {right' : Batch} (h : right'.type = right.type) :
    (builtin.invoke (.binary .cast l right')).result =
      (builtin.invoke (.binary .cast l right)).result := by
  by_cases hcastable : Builtin.isCastable l.type right.type
  · rw [invoke_cast_eq hcastable, invoke_cast_eq (h ▸ hcastable), h]
  · rw [invoke_cast_of_not_castable hcastable, invoke_cast_of_not_castable (h ▸ hcastable), h]

/-- A cast that succeeds keeps the rows and the nulls. -/
theorem result_of_invoke_cast (hl : CastsByRow l right.type)
    (h : Builtin.isCastable l.type right.type) {v : Batch}
    (hv : (builtin.invoke (.binary .cast l right)).result = .ok v) :
    v.type = right.type ∧ v.IsCanonical ∧ v.length = l.length ∧
      ∀ i, v.IsNullAt i ↔ l.IsNullAt i := by
  obtain ⟨form⟩ := hl.exists_rowCast h
  rw [invoke_castsByRow hl h] at hv
  exact form.result hv

/-- A cast that fails does so for its first value to fail. -/
theorem first_value_of_invoke_cast_error (hl : CastsByRow l right.type)
    (h : Builtin.isCastable l.type right.type) {failure : Failure}
    (hfailure : (builtin.invoke (.binary .cast l right)).result = .error failure) :
    failure.IsCompute ∧ ∃ i row, l.slice? i 1 = some row ∧ ¬l.IsNullAt i ∧
      (builtin.invoke (.binary .cast row right)).result = .error failure ∧
      ∀ j < i, ∀ row', l.slice? j 1 = some row' →
        ∃ v, (builtin.invoke (.binary .cast row' right)).result = .ok v := by
  obtain ⟨form⟩ := hl.exists_rowCast h
  rw [invoke_castsByRow hl h] at hfailure
  obtain ⟨hcompute, i, a, hi, hfails, hbefore⟩ := form.first_value hfailure
  have hslice := Batch.slice?_one_eq_some_iff.2 ⟨some a, hi, rfl⟩
  refine ⟨hcompute, i, _, hslice, fun hnull => ?_, ?_, fun j hj row' hrow' => ?_⟩
  · cases hi.symm.trans hnull
  · rw [invoke_castsByRow (hl.slice hslice) h, hfails]
  · have hby := hl.slice hrow'
    obtain ⟨x, hx, rfl⟩ := Batch.slice?_one_eq_some_iff.1 hrow'
    rw [invoke_castsByRow hby h]
    exact hbefore j hj x hx

/-- Casts look at the type of the second operand only. Casts that are a matter of the rows keep
nulls and make no others, and fail only for a value that fails on its own. A canonical batch is cast
to its own type as it is. Timestamps with a time zone are the only other batches: they lose it in a
cast to their own type, and their casts to text and to dates fail whatever the rows if its label
spells no offset. -/
theorem casts_are_strict (l right : Batch) :
    let cast (b carrier : Batch) := (builtin.invoke (.binary .cast b carrier)).result
    let Registered := ∃ o, (builtin.resolve (.binary .cast l.type right.type)).result = .ok o
    (∀ right' : Batch, right'.type = right.type → cast l right' = cast l right) ∧
    (¬Registered → cast l right =
      .error (.noMatchingOverload (.binary .cast) s!"{l.type}, {right.type}")) ∧
    (Registered → CastsByRow l right.type →
      (∀ v, cast l right = .ok v → v.type = right.type ∧ v.IsCanonical ∧ v.length = l.length ∧
        ∀ i, v.IsNullAt i ↔ l.IsNullAt i) ∧
      ∀ failure, cast l right = .error failure → (∃ fault, failure = .compute fault) ∧
        ∃ i row, l.slice? i 1 = some row ∧ ¬l.IsNullAt i ∧ cast row right = .error failure ∧
          ∀ j < i, ∀ row', l.slice? j 1 = some row' → ∃ v, cast row' right = .ok v) ∧
    (l.IsCanonical → right.type = l.type → cast l right = .ok l) ∧
    (∀ zone cells, right.type = .timestamp →
      cast (.ofTimestamps zone cells) right = .ok (.ofTimestamps none cells)) ∧
    ∀ zone failure, readZone zone = .error failure → ∀ cells,
      right.type = .string ∨ right.type = .date →
        cast (.ofTimestamps (some zone) cells) right = .error failure := by
  intro cast Registered
  refine ⟨fun right' hright => ?_, fun hnot => ?_, fun hregistered hl => ⟨fun v hv => ?_,
    fun failure hfailure => ?_⟩, invoke_cast_self, invoke_cast_ofTimestamps,
    fun zone failure => invoke_cast_of_unreadable_zone⟩
  · exact invoke_cast_congr hright
  · exact invoke_cast_of_not_castable fun h => hnot (exists_resolve_cast_iff.2 h)
  · exact result_of_invoke_cast hl (exists_resolve_cast_iff.1 hregistered) hv
  · exact first_value_of_invoke_cast_error hl (exists_resolve_cast_iff.1 hregistered) hfailure

/-- Timestamps with a time zone do not stay as they are in a cast to their own type, and a cast to
text fails for the zone where there are no rows. -/
theorem zoned_casts_not_strict :
    let cast (target : LogicalType) (b : Batch) :=
      (builtin.invoke (.binary .cast b (.empty target))).result
    let zoned : Batch := .ofTimestamps (some "UTC") [some 0]
    let rowless : Batch := .ofTimestamps (some "UTC") []
    cast .timestamp zoned = .ok (.ofTimestamps none [some 0]) ∧ cast .timestamp zoned ≠ .ok zoned ∧
      cast .string rowless = .error (.compute (.about .parse
        ((Calendar.InstantFault.zone "UTC").message "UTC"))) := by
  intro cast zoned rowless
  have hcast : cast .timestamp zoned = .ok (.ofTimestamps none [some 0]) :=
    invoke_cast_ofTimestamps (some "UTC") [some 0] rfl
  refine ⟨hcast, fun hsame => ?_, invoke_cast_of_unreadable_zone rfl [] (.inl rfl)⟩
  have hstorage := congrArg (·.column.storage) (Except.ok.inj (hcast.symm.trans hsame))
  cases hstorage

end Registry

end ColumnDispatch
