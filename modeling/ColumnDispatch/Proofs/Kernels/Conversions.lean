import ColumnDispatch.Proofs.Kernels.RowForm

/-! Row forms of the casts. Every pair of types that is castable has a conversion of values, which
fails with faults of the computation only; a cast to the same type gives the batch as it is. -/

namespace ColumnDispatch.Kernel

section Conversions

variable {α β : Type}

@[simp] theorem onlyFaults_ok : OnlyFaults (.ok : α → Except Failure α) := fun _ _ => nofun

@[simp] theorem onlyFaults_total (f : α → β) : OnlyFaults fun a => .ok (f a) :=
  fun _ _ => nofun

attribute [local grind] OnlyFaults Failure.IsCompute castFault unreadable unfitting

@[simp] theorem onlyFaults_readBool : OnlyFaults readBool := by grind [readBool]

@[simp] theorem onlyFaults_readInt64 : OnlyFaults readInt64 := by grind [readInt64]

@[simp] theorem onlyFaults_readFloat (f : Ieee.Format) (format : String) :
    OnlyFaults (readFloat f format) := by
  grind [readFloat]

@[simp] theorem onlyFaults_readDate : OnlyFaults readDate := by grind [readDate]

@[simp] theorem onlyFaults_readTimestamp : OnlyFaults readTimestamp := by grind [readTimestamp]

@[simp] theorem onlyFaults_writeDate : OnlyFaults writeDate := by
  intro day failure h
  unfold writeDate at h
  split at h
  · cases h
  · exact ⟨_, (Except.error.inj h).symm⟩

@[simp] theorem onlyFaults_writeTimestamp : OnlyFaults writeTimestamp := by
  intro t failure h
  unfold writeTimestamp at h
  split at h
  · cases h
  · exact ⟨_, (Except.error.inj h).symm⟩

@[simp] theorem onlyFaults_writeLocal (zone : String) (offset : Int) :
    OnlyFaults (writeLocal zone offset) := by
  intro t failure h
  unfold writeLocal at h
  split at h
  · cases h
  · exact ⟨_, (Except.error.inj h).symm⟩

@[simp] theorem onlyFaults_truncateFloat {f : Ieee.Format} :
    OnlyFaults (truncateFloat : Ieee.Number f → Except Failure Int64) := by
  grind [truncateFloat]

@[simp] theorem onlyFaults_dayOfInt64 : OnlyFaults dayOfInt64 := by grind [dayOfInt64]

@[simp] theorem onlyFaults_dayOfTimestamp : OnlyFaults dayOfTimestamp := by grind [dayOfTimestamp]

@[simp] theorem onlyFaults_localDay (offset : Int) : OnlyFaults (localDay offset) :=
  fun t failure h => onlyFaults_dayOfTimestamp t failure (except_map_eq_error_iff.1 h)

variable {s : Storage}

theorem onlyFaults_toInt64? {convert : s.Cell → Except Failure Int64}
    (h : toInt64? s = some convert) : OnlyFaults convert := by
  unfold toInt64? at h
  split at h <;> cases h <;> simp

theorem onlyFaults_toFloat? {f : Ieee.Format} {format : String}
    {convert : s.Cell → Except Failure (Ieee.Number f)} (h : toFloat? f format s = some convert) :
    OnlyFaults convert := by
  unfold toFloat? at h
  split at h <;> cases h <;> simp

theorem onlyFaults_toBool? {convert : s.Cell → Except Failure Bool}
    (h : toBool? s = some convert) : OnlyFaults convert := by
  unfold toBool? at h
  split at h <;> cases h <;> simp

theorem onlyFaults_toText? {convert : s.Cell → Except Failure String}
    (h : toText? s = some (.ok convert)) : OnlyFaults convert := by
  unfold toText? at h
  split at h
  case h_8 zone =>
    obtain ⟨offset, -, rfl⟩ := except_map_eq_ok_iff.1 (Option.some.inj h)
    simp
  all_goals cases h <;> simp

theorem onlyFaults_toDate? {convert : s.Cell → Except Failure Int32}
    (h : toDate? s = some (.ok convert)) : OnlyFaults convert := by
  unfold toDate? at h
  split at h
  case h_5 zone =>
    obtain ⟨offset, -, rfl⟩ := except_map_eq_ok_iff.1 (Option.some.inj h)
    simp
  all_goals cases h <;> simp

theorem onlyFaults_toTimestamp? {convert : s.Cell → Except Failure Int64}
    (h : toTimestamp? s = some convert) : OnlyFaults convert := by
  unfold toTimestamp? at h
  split at h <;> cases h <;> simp

theorem eq_some_of_map_ok {x : Option β} {b : β}
    (h : x.map Except.ok = some (.ok b : Except Failure β)) : x = some b := by
  simpa using h

theorem onlyFaults_conversion? {target : LogicalType}
    {convert : s.Cell → Except Failure target.storage.Cell}
    (h : conversion? s target = some (.ok convert)) : OnlyFaults convert := by
  cases target with
  | int64 => exact onlyFaults_toInt64? (eq_some_of_map_ok h)
  | float32 | float64 => exact onlyFaults_toFloat? (eq_some_of_map_ok h)
  | bool => exact onlyFaults_toBool? (eq_some_of_map_ok h)
  | string => exact onlyFaults_toText? h
  | date => exact onlyFaults_toDate? h
  | timestamp => exact onlyFaults_toTimestamp? (eq_some_of_map_ok h)

/-- Texts and dates are of the local time, for which the label of the time zone is read. -/
theorem conversion?_string_zoned {zone : String} {read : Except Failure Int}
    (h : readZone zone = read) :
    conversion? (.timestamp .microsecond (some zone)) .string =
      some (read.map (writeLocal zone)) := by
  rw [← h]
  rfl

theorem conversion?_date_zoned {zone : String} {read : Except Failure Int}
    (h : readZone zone = read) :
    conversion? (.timestamp .microsecond (some zone)) .date = some (read.map localDay) := by
  rw [← h]
  rfl

/-- Whatever is castable has a conversion. -/
theorem exists_conversion {source target : LogicalType} (h : Builtin.isCastable source target) :
    ∃ convert, conversion? source.storage target = some (.ok convert) := by
  have hisSome : ((conversion? source.storage target).bind Except.toOption).isSome := by
    revert h
    cases source <;> cases target <;> decide
  cases hconversion : conversion? source.storage target with
  | none => simp [hconversion] at hisSome
  | some prepared =>
    cases prepared with
    | error failure => simp [hconversion, Except.toOption] at hisSome
    | ok convert => exact ⟨convert, rfl⟩

end Conversions

/-- A format with a time zone is not the canonical one of any type. -/
theorem zoned_ne_storage (zone : String) (target : LogicalType) :
    Storage.timestamp .microsecond (some zone) ≠ target.storage := by
  cases target <;> simp [LogicalType.storage]

/-- A cast to another format converts the values. -/
theorem castBatch_of_conversion {s : Storage} {target : LogicalType}
    {convert : s.Cell → Except Failure target.storage.Cell} (hne : s ≠ target.storage)
    (hconvert : conversion? s target = some (.ok convert)) (type : LogicalType)
    (cells : List (Option s.Cell)) :
    castBatch target ⟨type, ⟨s, cells⟩⟩ =
      (eachRow (onPresent convert) cells).map (.ofCells target) := by
  have hcells : castCells target ⟨s, cells⟩ = eachRow (onPresent convert) cells := by
    simp only [castCells, hconvert]
    rfl
  rw [← hcells]
  exact if_neg hne

theorem castBatch_ofCells {source target : LogicalType}
    {convert : source.storage.Cell → Except Failure target.storage.Cell}
    (hne : source.storage ≠ target.storage)
    (hconvert : conversion? source.storage target = some (.ok convert))
    (cells : List (Option source.storage.Cell)) :
    castBatch target (.ofCells source cells) =
      (eachRow (onPresent convert) cells).map (.ofCells target) :=
  castBatch_of_conversion hne hconvert source cells

/-- A cast to the same type gives the batch as it is; any other converts the values. -/
theorem exists_castForm {source target : LogicalType} (h : Builtin.isCastable source target) :
    Nonempty (UnaryForm source target (castBatch target)) := by
  by_cases hsame : source.storage = target.storage
  · obtain rfl : source = target := by
      simpa [Storage.logical?_storage] using congrArg Storage.logical? hsame
    exact ⟨.ofTotal id fun cells => by simp [castBatch, Batch.ofCells]⟩
  · obtain ⟨convert, hconvert⟩ := exists_conversion h
    exact ⟨⟨convert, onlyFaults_conversion? hconvert, castBatch_ofCells hsame hconvert⟩⟩

end ColumnDispatch.Kernel
