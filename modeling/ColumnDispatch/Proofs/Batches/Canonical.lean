import ColumnDispatch.Batch

/-! Batches by the way they were built. Building from a column of any supported format gives a batch
in the canonical format of its type, and so does every other way but one: microsecond timestamps are
taken as they are, with the time zone of their column, and a slice of them keeps it. Such a batch
becomes canonical, with the same rows, when it is built again from its own column. -/

namespace ColumnDispatch

/-! ### Columns of supported formats -/

namespace Column

theorem toMicroseconds_microsecond (t : Int64) : toMicroseconds .microsecond t = some t := by
  simp [toMicroseconds, Checked.int64?_eq_some_iff, TimeUnit.perSecond]

theorem map_toMicroseconds_microsecond (cells : List (Option Int64)) :
    cells.map (·.bind (toMicroseconds .microsecond)) = cells := by
  rw [funext toMicroseconds_microsecond]
  simp

/-- What is not in the canonical format of its type is brought to it. -/
theorem storage_normalize {c : Column} {t : LogicalType} (h : c.storage.logical? = some t)
    (hother : c.storage ≠ t.storage) : c.normalize.storage = t.storage := by
  obtain ⟨storage, cells⟩ := c
  cases storage with
  | int64 | float32 | float64 | boolean | utf8 | date32 =>
    obtain rfl := Option.some.inj h
    exact absurd rfl hother
  | largeUtf8 | date64 | timestamp unit zone =>
    obtain rfl := Option.some.inj h
    rfl
  | other name => cases h

end Column

namespace Batch

variable {b : Batch} {c : Column}

theorem ofColumn_of_logical? {t : LogicalType} (h : c.storage.logical? = some t) :
    ofColumn c = .ok ⟨t, if c.storage = t.storage then c else c.normalize⟩ := by
  simp only [ofColumn, h]

/-- Building fails for the formats that hold values of no type, and for nothing else. -/
theorem ofColumn_eq_error_iff {failure : Failure} :
    ofColumn c = .error failure ↔
      c.storage.logical? = none ∧ failure = .unsupportedType c.storage.name := by
  cases h : c.storage.logical? with
  | none =>
    simp only [ofColumn, h, true_and, Except.error.injEq]
    exact eq_comm
  | some t => simp [ofColumn_of_logical? h]

theorem isCanonical_of_ofColumn (h : ofColumn c = .ok b) : b.IsCanonical := by
  cases hlogical : c.storage.logical? with
  | none => simp [ofColumn, hlogical] at h
  | some t =>
    rw [ofColumn_of_logical? hlogical] at h
    obtain rfl := Except.ok.inj h
    simp only [IsCanonical]
    split
    · assumption
    · exact Column.storage_normalize hlogical ‹_›

/-- A canonical batch comes back when it is built again from its column. -/
theorem IsCanonical.ofColumn_column (h : b.IsCanonical) : ofColumn b.column = .ok b := by
  have hstorage : b.column.storage = b.type.storage := h
  have hlogical : b.column.storage.logical? = some b.type := by
    rw [hstorage, Storage.logical?_storage]
  rw [ofColumn_of_logical? hlogical, if_pos hstorage]

/-- Timestamps of any unit and time zone become microseconds without a time zone. -/
theorem ofColumn_timestamps (unit : TimeUnit) (zone : Option String) (cells : List (Option Int64)) :
    ofColumn ⟨.timestamp unit zone, cells⟩ =
      .ok (.ofTimestamps none (cells.map (·.bind (Column.toMicroseconds unit)))) := by
  by_cases h : Storage.timestamp unit zone = LogicalType.timestamp.storage
  · obtain ⟨rfl, rfl⟩ := Storage.timestamp.inj h
    rw [Column.map_toMicroseconds_microsecond]
    exact IsCanonical.ofColumn_column (b := .ofTimestamps none cells) rfl
  · rw [ofColumn_of_logical? rfl, if_neg h]
    rfl

/-- The time zone is dropped, and the instants stay. -/
theorem ofColumn_ofTimestamps (zone : Option String) (cells : List (Option Int64)) :
    ofColumn (ofTimestamps zone cells).column = .ok (ofTimestamps none cells) := by
  refine (ofColumn_timestamps .microsecond zone cells).trans ?_
  rw [Column.map_toMicroseconds_microsecond]

theorem isCanonical_ofTimestamps_iff {zone : Option String} {cells : List (Option Int64)} :
    (ofTimestamps zone cells).IsCanonical ↔ zone = none := by
  simp [IsCanonical, ofTimestamps, LogicalType.storage]

/-- Row `i` is there and null. -/
def IsNullAt (b : Batch) (i : Nat) : Prop := b.column.cells[i]? = some none

theorem slice?_eq_some_iff {offset length : Nat} {b' : Batch} :
    b.slice? offset length = some b' ↔ offset + length ≤ b.length ∧
      b' = ⟨b.type, ⟨b.column.storage, (b.column.cells.drop offset).take length⟩⟩ := by
  simp only [slice?, Column.slice?, Batch.length]
  split
  · simp [*, eq_comm]
  · simp [*]

end Batch

/-! ### Ways to build a batch -/

/-- A way to build a batch without running a kernel. -/
inductive Recipe where
  | ofColumn (c : Column)
  | empty (t : LogicalType)
  | nulls (t : LogicalType) (n : Nat)
  | ofCells (t : LogicalType) (cells : List (Option t.storage.Cell))
  | ofTimestamps (zone : Option String) (cells : List (Option Int64))
  | slice (whole : Recipe) (offset length : Nat)
  | rewrap (recipe : Recipe)

namespace Recipe

/-- The batch that comes out, if a column is of a supported format and a slice lies in its whole. -/
def build? : Recipe → Option Batch
  | ofColumn c => (Batch.ofColumn c).toOption
  | empty t => some (.empty t)
  | nulls t n => some (.nulls t n)
  | ofCells t cells => some (.ofCells t cells)
  | ofTimestamps zone cells => some (.ofTimestamps zone cells)
  | slice whole offset length => whole.build?.bind (·.slice? offset length)
  | rewrap recipe => recipe.build?.bind fun b => (Batch.ofColumn b.column).toOption

/-- Whether a time zone that timestamps came with is still there. -/
def keepsZone : Recipe → Bool
  | ofTimestamps zone _ => zone.isSome
  | slice whole _ _ => whole.keepsZone
  | _ => false

theorem ofColumn_of_toOption {c : Column} {b : Batch} (h : (Batch.ofColumn c).toOption = some b) :
    Batch.ofColumn c = .ok b := by
  cases hc : Batch.ofColumn c with
  | error failure => simp [hc, Except.toOption] at h
  | ok b' =>
    rw [hc] at h
    exact congrArg _ (Option.some.inj h)

/-- What comes out is canonical, or timestamps with a time zone that is still there. -/
theorem build_cases {recipe : Recipe} {b : Batch} (h : recipe.build? = some b) :
    (recipe.keepsZone = false ∧ b.IsCanonical) ∨
      (recipe.keepsZone = true ∧ ∃ zone cells, b = .ofTimestamps (some zone) cells) := by
  induction recipe generalizing b with
  | ofColumn c => exact .inl ⟨rfl, Batch.isCanonical_of_ofColumn (ofColumn_of_toOption h)⟩
  | empty t | nulls t n | ofCells t cells =>
    obtain rfl := Option.some.inj h
    exact .inl ⟨rfl, rfl⟩
  | ofTimestamps zone cells =>
    obtain rfl := Option.some.inj h
    cases zone with
    | none => exact .inl ⟨rfl, rfl⟩
    | some zone => exact .inr ⟨rfl, zone, cells, rfl⟩
  | slice whole offset length ih =>
    obtain ⟨w, hw, hslice⟩ := Option.bind_eq_some_iff.1 h
    obtain ⟨-, rfl⟩ := Batch.slice?_eq_some_iff.1 hslice
    rcases ih hw with ⟨hzone, hcanonical⟩ | ⟨hzone, zone, cells, rfl⟩
    · exact .inl ⟨hzone, hcanonical⟩
    · exact .inr ⟨hzone, zone, (cells.drop offset).take length, rfl⟩
  | rewrap recipe ih =>
    obtain ⟨w, hw, hrewrap⟩ := Option.bind_eq_some_iff.1 h
    exact .inl ⟨rfl, Batch.isCanonical_of_ofColumn (ofColumn_of_toOption hrewrap)⟩

/-- Exactly the timestamps that still have a time zone are not canonical. Whatever was built is
built again from its column as it was, but for the time zone, and a column is refused only for its
format. -/
theorem canonical_unless_zoned (recipe : Recipe) (c : Column) :
    (∀ b, recipe.build? = some b →
      (recipe.keepsZone = false → b.IsCanonical ∧ Batch.ofColumn b.column = .ok b) ∧
      (recipe.keepsZone = true → ¬b.IsCanonical ∧ ∃ zone cells,
        b = .ofTimestamps (some zone) cells ∧
          Batch.ofColumn b.column = .ok (.ofTimestamps none cells))) ∧
    ∀ failure, Batch.ofColumn c = .error failure ↔
      c.storage.logical? = none ∧ failure = .unsupportedType c.storage.name := by
  refine ⟨fun b h => ?_, fun failure => Batch.ofColumn_eq_error_iff⟩
  rcases build_cases h with ⟨hzone, hcanonical⟩ | ⟨hzone, zone, cells, rfl⟩
  · simp only [hzone]
    exact ⟨fun _ => ⟨hcanonical, hcanonical.ofColumn_column⟩, nofun⟩
  · simp only [hzone]
    refine ⟨nofun, fun _ => ⟨?_, zone, cells, rfl, Batch.ofColumn_ofTimestamps _ _⟩⟩
    simp [Batch.isCanonical_ofTimestamps_iff]

/-- Timestamps with a time zone are not held in the canonical format. -/
theorem zoned_not_canonical :
    ¬∀ (recipe : Recipe) (b : Batch), recipe.build? = some b → b.IsCanonical := by
  intro hall
  have hzoned := hall (ofTimestamps (some "UTC") [some 0]) (.ofTimestamps (some "UTC") [some 0]) rfl
  simp [Batch.isCanonical_ofTimestamps_iff] at hzoned

end Recipe

end ColumnDispatch
