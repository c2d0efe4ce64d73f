import ColumnDispatch.Ieee.Number
import ColumnDispatch.Storage

/-! Columns: a storage format and, for each row, a cell of that format or null. A format with no
logical type has no cells, so its columns hold nulls only. -/

namespace ColumnDispatch

/-- What a cell of the format is. Dates count days and timestamps count their unit from the start of
1970. -/
@[reducible] def Storage.Cell : Storage → Type
  | .int64 => Int64
  | .float32 => Ieee.Binary32
  | .float64 => Ieee.Binary64
  | .boolean => Bool
  | .utf8 => String
  | .largeUtf8 => String
  | .date32 => Int32
  | .date64 => Int64
  | .timestamp _ _ => Int64
  | .other _ => Empty

structure Column where
  storage : Storage
  cells : List (Option storage.Cell)

namespace Column

def length (c : Column) : Nat := c.cells.length

def nullCount (c : Column) : Nat := c.cells.countP Option.isNone

def empty (s : Storage) : Column := ⟨s, []⟩

def nulls (s : Storage) (n : Nat) : Column := ⟨s, List.replicate n none⟩

/-- The rows from `offset` on, `length` of them; the column has to have them all. -/
def slice? (c : Column) (offset length : Nat) : Option Column :=
  if offset + length ≤ c.length then some ⟨c.storage, (c.cells.drop offset).take length⟩ else none

end Column

end ColumnDispatch
