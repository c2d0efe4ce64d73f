import ColumnDispatch.Operator

/-! What a registry reports while it is built and used: accepted registrations, the end of the
registration phase, and calls that no overload accepts. -/

namespace ColumnDispatch

inductive Level where
  | trace | debug | info
  deriving DecidableEq, Repr

def Level.name : Level → String
  | trace => "TRACE"
  | debug => "DEBUG"
  | info => "INFO"

inductive Event where
  | registered (operator : Operator) (signature : String) (returns : LogicalType)
  | builtinsRegistered (count : Nat)
  /-- The end of registration, with the number of overloads of each class. -/
  | frozen (unary binary variadic : Nat)
  | noUnaryOverload (op : UnaryOperator) (operand : LogicalType)
  | noBinaryOverload (op : BinaryOperator) (left right : LogicalType)
  | noVariadicOverload (op : VariadicOperator) (operand : LogicalType)
  | arityMismatch (op : VariadicOperator) (operand : LogicalType) (count : Nat)
  /-- No overload of the operator accepts a call without operands. -/
  | nullaryMismatch (op : VariadicOperator)
  deriving DecidableEq, Repr

namespace Event

def level : Event → Level
  | registered .. | builtinsRegistered _ => .debug
  | frozen .. => .info
  | _ => .trace

def message : Event → String
  | registered op _ _ => s!"registered {op.operandClass.label} overload"
  | builtinsRegistered _ => "registered built-in kernels"
  | frozen .. => "overload registry frozen"
  | noUnaryOverload .. => "no unary overload"
  | noBinaryOverload .. => "no binary overload"
  | noVariadicOverload .. => "no multi overload"
  | arityMismatch .. => "multi arity mismatch"
  | nullaryMismatch _ => "multi arity mismatch with no operands"

/-- The named texts that go with the message. -/
def fields : Event → List (String × String)
  | registered op signature returns =>
    [("operator", op.name), ("signature", signature), ("return_type", returns.name)]
  | builtinsRegistered count => [("count", toString count)]
  | frozen unary binary variadic =>
    [("unary", toString unary), ("binary", toString binary), ("multi", toString variadic)]
  | noUnaryOverload op operand => [("operator", op.name), ("operand", operand.name)]
  | noBinaryOverload op left right =>
    [("operator", op.name), ("left", left.name), ("right", right.name)]
  | noVariadicOverload op operand => [("operator", op.name), ("operand", operand.name)]
  | arityMismatch op operand count =>
    [("operator", op.name), ("operand", operand.name), ("count", toString count)]
  | nullaryMismatch op => [("operator", op.name)]

end Event

end ColumnDispatch
