import ColumnDispatch.Overload

/-! Row-by-row computation. A kernel that treats rows on their own is a function of the cells of one
row; it is run down the rows, and the first row that fails decides the failure. Most such functions
are only given values: a row with a null operand is null and nothing is computed for it. -/

namespace ColumnDispatch.Kernel

variable {α β γ : Type}

/-! ### One row -/

def onPresent (f : α → Except Failure β) : Option α → Except Failure (Option β)
  | some a => (f a).map some
  | none => .ok none

def onBothPresent (f : α → β → Except Failure γ) : Option α → Option β → Except Failure (Option γ)
  | some a, some b => (f a b).map some
  | _, _ => .ok none

/-! ### All rows -/

def eachRow (row : α → Except Failure β) (cells : List α) : Except Failure (List β) :=
  cells.mapM row

/-- Runs a function of two cells down two columns of one length. -/
def eachPair (row : α → β → Except Failure γ) (left : List α) (right : List β) :
    Except Failure (List γ) :=
  eachRow (fun pair => row pair.1 pair.2) (left.zip right)

/-! ### Operands -/

/-- The cells of a batch that a kernel takes to be held in a certain format. -/
def cellsOf (s : Storage) (b : Batch) : Except Failure (List (Option s.Cell)) :=
  if h : b.column.storage = s then .ok (h ▸ b.column.cells)
  else .error (.kernel s!"expected {s} operand, got {b.column.storage}")

/-- A result that two lists of cells have only if they are equally long. -/
def ofSameLength (left : List α) (right : List β) (mismatch : Failure)
    (result : Except Failure γ) : Except Failure γ :=
  if left.length = right.length then result else .error mismatch

/-- An operator that is not defined for the formats of two columns. -/
def invalidOperation (kind op : String) (left right : Storage) : Failure :=
  .compute (.about .invalidArgument s!"Invalid {kind}operation: {left} {op} {right}")

end ColumnDispatch.Kernel
