import ColumnDispatch.Registry.Resolve

/-! Invocation: resolve by the operands' types, run the kernel on the operands, check the type of
the result. A failure of the kernel is passed on unchanged. Many independent calls may be run on a
pool, which finishes them in any order; results stand in the order of the calls. -/

namespace ColumnDispatch.Registry

/-- The batch, unless results are verified and its type is not the declared one. -/
def checkReturnType (r : Registry) (op : Operator) (declared : LogicalType) (result : Batch) :
    Except Failure Batch :=
  if r.verifyReturnType && result.type ≠ declared then
    .error (.returnTypeMismatch op declared result.type)
  else .ok result

def invokeUnary (r : Registry) (op : UnaryOperator) (operand : Batch) : Traced Batch := do
  let o ← r.resolveUnary op operand.type
  let result ← Traced.ofExcept (o.kernel operand)
  Traced.ofExcept (r.checkReturnType (.unary op) o.returns result)

def invokeBinary (r : Registry) (op : BinaryOperator) (left right : Batch) : Traced Batch := do
  let o ← r.resolveBinary op left.type right.type
  let result ← Traced.ofExcept (o.kernel left right)
  Traced.ofExcept (r.checkReturnType (.binary op) o.returns result)

/-- The overload for the operands of a variadic call, which must all have one type. -/
def resolveOperands (r : Registry) (op : VariadicOperator) (operands : List Batch) :
    Traced VariadicOverload :=
  match operands with
  | [] => r.resolveNullary op
  | first :: _ =>
    if operands.all (·.type = first.type) then r.resolveVariadic op first.type operands.length
    else
      let types := ", ".intercalate (operands.map (·.type.name))
      .fail (.noMatchingOverload (.variadic op) types) []

def invokeVariadic (r : Registry) (op : VariadicOperator) (operands : List Batch) :
    Traced Batch := do
  let o ← r.resolveOperands op operands
  let result ← Traced.ofExcept (o.kernel operands)
  Traced.ofExcept (r.checkReturnType (.variadic op) o.returns result)

/-! ### Pools -/

/-- The outcome of calls that finish in some order, each with its place among the calls: the failure
that comes first, or all results by place. -/
def gather (finished : List (Nat × Except Failure Batch)) : Except Failure (List Batch) := do
  let results ← finished.mapM fun (place, outcome) => outcome.map (place, ·)
  return (results.mergeSort fun a b => a.1 ≤ b.1).map (·.2)

/-- The calls in the order of `schedule`, a list of their places. -/
def scheduled {α : Type} (schedule : List Nat) (calls : List α) (call : α → Except Failure Batch) :
    List (Nat × Except Failure Batch) :=
  schedule.filterMap fun place => calls[place]?.map fun c => (place, call c)

/-- Runs a unary operator on each batch; the pool finishes the calls in the order of `schedule`. -/
def parInvokeUnary (r : Registry) (op : UnaryOperator) (schedule : List Nat)
    (batches : List Batch) : Except Failure (List Batch) :=
  gather (scheduled schedule batches fun b => (r.invokeUnary op b).result)

/-- Runs a binary operator on each pair; the pool finishes the calls in the order of `schedule`. -/
def parInvokeBinary (r : Registry) (op : BinaryOperator) (schedule : List Nat)
    (pairs : List (Batch × Batch)) : Except Failure (List Batch) :=
  gather (scheduled schedule pairs fun p => (r.invokeBinary op p.1 p.2).result)

end ColumnDispatch.Registry
