import ColumnDispatch.Kernel.Rowwise

/-! The first operand that is not null, row by row. Operands are taken in one after the other, and
only while the result still has a null, so an operand behind that point may have any length. -/

namespace ColumnDispatch.Kernel

def coalescedFault (text : String) : Failure := .compute (.about .invalidArgument text)

/-- The column with its nulls filled from another column. -/
def fillNulls (column other : Column) : Except Failure Column :=
  if h : other.storage = column.storage then
    ofSameLength column.cells other.cells (coalescedFault "all arrays should have the same length")
      (.ok ⟨column.storage, column.cells.zipWith Option.or (h ▸ other.cells)⟩)
  else .error (coalescedFault "arguments need to have the same data type")

/-- The column with its nulls filled from a row of other columns, as long as it has any. -/
def fillFrom (column : Column) : List Column → Except Failure Column
  | [] => .ok column
  | other :: rest => do
    if column.nullCount = 0 then return column
    fillFrom (← fillNulls column other) rest

def coalesce : VariadicKernel
  | [] => .error (.kernel "coalesce requires at least one argument")
  | first :: rest => do Batch.ofColumn (← fillFrom first.column (rest.map (·.column)))

end ColumnDispatch.Kernel
