import ColumnDispatch.Ieee.Order
import ColumnDispatch.Kernel.Rowwise

/-! Comparison of columns. Each format has one order on its cells, and the six comparisons are read
off it; a row with a null operand compares to null. Main statement: cells compare equal only if they
are the same, so floating-point numbers are equal only bit for bit. -/

namespace ColumnDispatch

/-! ### Order of cells -/

/-- Integers, days and instants by their number, `false` before `true`, texts by their code points,
which is the order of their UTF-8 bytes, and floating-point numbers by their total order. -/
def Storage.compareCells : (s : Storage) → s.Cell → s.Cell → Ordering
  | .int64, a, b => compare a.toInt b.toInt
  | .float32, a, b => compare a b
  | .float64, a, b => compare a b
  | .boolean, a, b => compare a.toNat b.toNat
  | .utf8, a, b => compare a b
  | .largeUtf8, a, b => compare a b
  | .date32, a, b => compare a.toInt b.toInt
  | .date64, a, b => compare a.toInt b.toInt
  | .timestamp _ _, a, b => compare a.toInt b.toInt
  | .other _, a, _ => nomatch a

theorem Storage.eq_of_compareCells_eq {s : Storage} {a b : s.Cell} (h : s.compareCells a b = .eq) :
    a = b := by
  cases s with
  | int64 | date64 | timestamp => exact Int64.toInt_inj.1 (Std.LawfulEqOrd.eq_of_compare h)
  | date32 => exact Int32.toInt_inj.1 (Std.LawfulEqOrd.eq_of_compare h)
  | float32 | float64 => exact Ieee.Number.key_injective (Std.LawfulEqOrd.eq_of_compare h)
  | boolean => cases a <;> cases b <;> revert h <;> decide
  | utf8 | largeUtf8 => exact Std.LawfulEqOrd.eq_of_compare h
  | other => exact nomatch a

namespace Kernel

/-! ### Comparisons -/

inductive Comparison where
  | equal | notEqual | less | lessEqual | greater | greaterEqual
  deriving DecidableEq, Repr

namespace Comparison

def all : List Comparison := [equal, notEqual, less, lessEqual, greater, greaterEqual]

def symbol : Comparison → String
  | equal => "=="
  | notEqual => "!="
  | less => "<"
  | lessEqual => "<="
  | greater => ">"
  | greaterEqual => ">="

def operator : Comparison → BinaryOperator
  | equal => .equal
  | notEqual => .notEqual
  | less => .less
  | lessEqual => .lessEqual
  | greater => .greater
  | greaterEqual => .greaterEqual

/-- Whether the comparison is true of two values in the given order. -/
def holds : Comparison → Ordering → Bool
  | equal => (·.isEq)
  | notEqual => (·.isNe)
  | less => (·.isLT)
  | lessEqual => (·.isLE)
  | greater => (·.isGT)
  | greaterEqual => (·.isGE)

end Comparison

def comparedLengths (left right : Nat) : Failure :=
  .compute (.about .invalidArgument
    s!"Cannot compare arrays of different lengths, got {left} vs {right}")

namespace Comparison

def onCells (c : Comparison) (s : Storage) (a b : s.Cell) : Bool := c.holds (s.compareCells a b)

/-- Formats are compared with themselves only. -/
def onColumns (c : Comparison) (left right : Column) : Except Failure (List (Option Bool)) :=
  ofSameLength left.cells right.cells (comparedLengths left.length right.length)
    (if h : right.storage = left.storage then
      eachPair (onBothPresent fun a b => .ok (c.onCells left.storage a b)) left.cells
        (h ▸ right.cells)
    else .error (invalidOperation "comparison " c.symbol left.storage right.storage))

def kernel (c : Comparison) : BinaryKernel := fun left right => do
  return .ofCells .bool (← c.onColumns left.column right.column)

end Comparison

end Kernel

end ColumnDispatch
