import ColumnDispatch.Checked
import ColumnDispatch.Ieee.Arithmetic
import ColumnDispatch.Kernel.Rowwise

/-! Arithmetic on columns. Integer results are exact or the row fails; quotients are truncated
toward zero and a remainder fails wherever its quotient does. Floating-point results are rounded
once. Dates and timestamps have no arithmetic but the difference, which is a duration and so the
value of no logical type. -/

namespace ColumnDispatch.Kernel

inductive Arithmetic where
  | plus | minus | times | divide | modulo
  deriving DecidableEq, Repr

def overflow (text : String) : Failure :=
  .compute (.about .overflow s!"Overflow happened on: {text}")

/-- The word that holds an exact result, or the failure that names what overflowed. -/
def fitted (text : String) (exact : Int) : Except Failure Int64 :=
  match Checked.int64? exact with
  | some word => .ok word
  | none => .error (overflow text)

namespace Arithmetic

def all : List Arithmetic := [plus, minus, times, divide, modulo]

def symbol : Arithmetic → String
  | plus => "+"
  | minus => "-"
  | times => "*"
  | divide => "/"
  | modulo => "%"

def operator : Arithmetic → BinaryOperator
  | plus => .plus
  | minus => .minus
  | times => .times
  | divide => .divide
  | modulo => .modulo

/-! ### One row -/

def onInt64 (op : Arithmetic) (a b : Int64) : Except Failure Int64 :=
  let checked := fitted s!"{a.toInt} {op.symbol} {b.toInt}"
  let quotient :=
    if b = 0 then .error (.compute .divideByZero) else checked (a.toInt.tdiv b.toInt)
  match op with
  | plus => checked (a.toInt + b.toInt)
  | minus => checked (a.toInt - b.toInt)
  | times => checked (a.toInt * b.toInt)
  | divide => quotient
  | modulo => quotient.map fun _ => Int64.ofInt (a.toInt.tmod b.toInt)

def onFloat {f : Ieee.Format} : Arithmetic → Ieee.Number f → Ieee.Number f → Ieee.Number f
  | plus => .add
  | minus => .sub
  | times => .mul
  | divide => .div
  | modulo => .rem

/-! ### Columns -/

def checkedLengths : Failure :=
  .compute (.about .compute "Cannot perform a binary operation on arrays of different length")

def plainLengths : Failure :=
  .compute (.about .compute "Cannot perform binary operation on arrays of different length")

/-- Rows of a computation that may fail. -/
def checkedRows {α β : Type} (f : α → α → Except Failure β) (left right : List (Option α)) :
    Except Failure (List (Option β)) :=
  ofSameLength left right checkedLengths (eachPair (onBothPresent f) left right)

/-- Rows of a computation that cannot fail. -/
def plainRows {α β : Type} (f : α → α → β) (left right : List (Option α)) :
    Except Failure (List (Option β)) :=
  ofSameLength left right plainLengths (eachPair (onBothPresent fun a b => .ok (f a b)) left right)

/-- The difference of two columns of days, which no logical type holds. -/
def dateDifference (left right : List (Option Int32)) : Except Failure Column := do
  let _ ← plainRows (fun a b => a.toInt - b.toInt) left right
  .error (.unsupportedType "Duration(Second)")

/-- The difference of two columns of instants, which no logical type holds. -/
def timestampDifference (left right : List (Option Int64)) : Except Failure Column := do
  let _ ← checkedRows minus.onInt64 left right
  .error (.unsupportedType "Duration(Microsecond)")

def onColumns (op : Arithmetic) (left right : Column) : Except Failure Column :=
  let invalid (kind : String) := .error (invalidOperation kind op.symbol left.storage right.storage)
  match left, right with
  | ⟨.int64, xs⟩, ⟨.int64, ys⟩ => (checkedRows op.onInt64 xs ys).map (⟨.int64, ·⟩)
  | ⟨.float32, xs⟩, ⟨.float32, ys⟩ => (plainRows op.onFloat xs ys).map (⟨.float32, ·⟩)
  | ⟨.float64, xs⟩, ⟨.float64, ys⟩ => (plainRows op.onFloat xs ys).map (⟨.float64, ·⟩)
  | ⟨.date32, xs⟩, ⟨.date32, ys⟩ =>
    if op = minus then dateDifference xs ys else invalid "date arithmetic "
  | ⟨.date32, _⟩, _ => invalid "date arithmetic "
  | ⟨.timestamp .microsecond _, xs⟩, ⟨.timestamp .microsecond _, ys⟩ =>
    if op = minus then timestampDifference xs ys else invalid "timestamp arithmetic "
  | ⟨.timestamp .., _⟩, _ => invalid "timestamp arithmetic "
  | _, _ => invalid "arithmetic "

def kernel (op : Arithmetic) : BinaryKernel := fun left right => do
  Batch.ofColumn (← op.onColumns left.column right.column)

end Arithmetic

/-! ### Signs -/

def negateInt64 (a : Int64) : Except Failure Int64 := fitted s!"- {a.toInt}" (-a.toInt)

def absoluteInt64 (a : Int64) : Except Failure Int64 := fitted s!"abs({a.toInt})" a.toInt.natAbs

def negateColumn : Column → Except Failure Column
  | ⟨.int64, xs⟩ => (eachRow (onPresent negateInt64) xs).map (⟨.int64, ·⟩)
  | ⟨.float32, xs⟩ => .ok ⟨.float32, xs.map (·.map .neg)⟩
  | ⟨.float64, xs⟩ => .ok ⟨.float64, xs.map (·.map .neg)⟩
  | c => .error (.compute (.about .invalidArgument s!"Invalid arithmetic operation: !{c.storage}"))

/-- Takes any numeric batch. -/
def negate : UnaryKernel := fun operand => do
  Batch.ofColumn (← negateColumn operand.column)

def absoluteIntegers : UnaryKernel := fun operand => do
  let cells ← eachRow (onPresent absoluteInt64) (← cellsOf .int64 operand)
  return .ofCells .int64 cells

def absoluteSingles : UnaryKernel := fun operand => do
  return .ofCells .float32 ((← cellsOf .float32 operand).map (·.map .abs))

def absoluteDoubles : UnaryKernel := fun operand => do
  return .ofCells .float64 ((← cellsOf .float64 operand).map (·.map .abs))

end ColumnDispatch.Kernel
