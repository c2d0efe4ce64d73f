import ColumnDispatch.Checked
import ColumnDispatch.Column
import ColumnDispatch.Failure

/-! Batches: a column with the logical type that dispatch goes by. Building a batch from any column
brings the column to the canonical format of its type, which can lose information: a time zone is
dropped without shifting, nanoseconds are cut, a day in milliseconds is cut to the day, and a row
that does not fit in microseconds becomes null. -/

namespace ColumnDispatch

/-! ### Canonical columns -/

namespace Column

/-- A timestamp in microseconds. A coarser unit is multiplied, and a product that does not fit is
null; a finer one is divided, truncating toward zero. -/
def toMicroseconds (unit : TimeUnit) (t : Int64) : Option Int64 :=
  let micros := TimeUnit.microsecond.perSecond
  if unit.perSecond ≤ micros then Checked.int64? (t.toInt * (micros / unit.perSecond))
  else some (Int64.ofInt (t.toInt.tdiv (unit.perSecond / micros)))

def millisecondsPerDay : Int := 86400000

/-- The day of an instant in milliseconds, truncating toward zero and cut to 32 bits. -/
def dayOfMilliseconds (t : Int64) : Int32 := Int32.ofInt (t.toInt.tdiv millisecondsPerDay)

/-- The column in the canonical format of its logical type. -/
def normalize : Column → Column
  | ⟨.largeUtf8, cells⟩ => ⟨.utf8, cells⟩
  | ⟨.date64, cells⟩ => ⟨.date32, cells.map (·.map dayOfMilliseconds)⟩
  | ⟨.timestamp unit _, cells⟩ =>
    ⟨LogicalType.timestamp.storage, cells.map (·.bind (toMicroseconds unit))⟩
  | c => c

end Column

/-! ### Batches -/

structure Batch where
  type : LogicalType
  column : Column

namespace Batch

/-- Whether the column is held in the canonical format of the batch's type. -/
def IsCanonical (b : Batch) : Prop := b.column.storage = b.type.storage

/-- The batch of a column of any supported format. -/
def ofColumn (c : Column) : Except Failure Batch :=
  match c.storage.logical? with
  | some t => .ok ⟨t, if c.storage = t.storage then c else c.normalize⟩
  | none => .error (.unsupportedType c.storage.name)

def ofCells (t : LogicalType) (cells : List (Option t.storage.Cell)) : Batch :=
  ⟨t, ⟨t.storage, cells⟩⟩

/-- Microsecond timestamps as they are, with the time zone that the column has, if any. -/
def ofTimestamps (zone : Option String) (cells : List (Option Int64)) : Batch :=
  ⟨.timestamp, ⟨.timestamp .microsecond zone, cells⟩⟩

/-- A batch without rows, useful as a bearer of its type. -/
def empty (t : LogicalType) : Batch := ⟨t, .empty t.storage⟩

def nulls (t : LogicalType) (n : Nat) : Batch := ⟨t, .nulls t.storage n⟩

def length (b : Batch) : Nat := b.column.length

def isEmpty (b : Batch) : Bool := b.length = 0

def nullCount (b : Batch) : Nat := b.column.nullCount

def slice? (b : Batch) (offset length : Nat) : Option Batch :=
  (b.column.slice? offset length).map (⟨b.type, ·⟩)

end Batch

end ColumnDispatch
