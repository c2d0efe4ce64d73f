import ColumnDispatch.Kernel.Rowwise

/-! Three-valued logic on columns, where null stands for a truth value that is not known. The result
is known when either value of an unknown operand would give it. -/

namespace ColumnDispatch.Kernel

/-! ### One row -/

def conjunction : Option Bool → Option Bool → Option Bool
  | some false, _ => some false
  | _, some false => some false
  | some true, some true => some true
  | _, _ => none

def disjunction : Option Bool → Option Bool → Option Bool
  | some true, _ => some true
  | _, some true => some true
  | some false, some false => some false
  | _, _ => none

def negation : Option Bool → Option Bool := Option.map (!·)

/-! ### Columns -/

def logicLengths : Failure :=
  .compute (.about .compute "Cannot perform bitwise operation on arrays of different length")

def connective (row : Option Bool → Option Bool → Option Bool) : BinaryKernel :=
  fun left right => do
    let xs ← cellsOf .boolean left
    let ys ← cellsOf .boolean right
    return .ofCells .bool (← ofSameLength xs ys logicLengths (.ok (xs.zipWith row ys)))

def logicalAnd : BinaryKernel := connective conjunction

def logicalOr : BinaryKernel := connective disjunction

def logicalNot : UnaryKernel := fun operand => do
  return .ofCells .bool ((← cellsOf .boolean operand).map negation)

end ColumnDispatch.Kernel
