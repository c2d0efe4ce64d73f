import ColumnDispatch.Registry.Builder
import ColumnDispatch.Registry.Traced

/-! Resolution: which overload a call selects. Operand types must equal those of the signature; no
operator is commutative and no type is widened. A variadic call also needs an argument count in the
signature's range; one without operands has no type, and is accepted only if exactly one overload of
the operator takes it. -/

namespace ColumnDispatch

/-- Every accepted range once, in order. -/
def expectedText (ranges : List Arity) : String :=
  let ordered := (ranges.mergeSort fun a b => (compare a b).isLE).eraseDups
  " or ".intercalate (ordered.map toString)

namespace Registry

def resolveUnary (r : Registry) (op : UnaryOperator) (operand : LogicalType) :
    Traced UnaryOverload :=
  match (r.tables.unary.get op).get? ⟨operand⟩ with
  | some o => pure o
  | none => .fail (.noMatchingOverload (.unary op) operand.name) [.noUnaryOverload op operand]

def resolveBinary (r : Registry) (op : BinaryOperator) (left right : LogicalType) :
    Traced BinaryOverload :=
  match (r.tables.binary.get op).get? ⟨left, right⟩ with
  | some o => pure o
  | none =>
    .fail (.noMatchingOverload (.binary op) s!"{left}, {right}") [.noBinaryOverload op left right]

/-- The overload among some of the operator that accepts `count` arguments of type `operand`. -/
def selectVariadic (op : VariadicOperator) (overloads : List VariadicOverload)
    (operand : LogicalType) (count : Nat) : Traced VariadicOverload :=
  let candidates := overloads.filter (·.signature.operand = operand)
  match candidates.find? (·.signature.arity.contains count) with
  | some o => pure o
  | none =>
    if candidates.isEmpty then
      .fail (.noMatchingOverload (.variadic op) operand.name) [.noVariadicOverload op operand]
    else
      let ranges := candidates.map (·.signature.arity)
      .fail (.arityMismatch (.variadic op) (expectedText ranges) count)
        [.arityMismatch op operand count]

/-- Picking the type first and the count then is picking both at once. -/
theorem find?_candidates (overloads : List VariadicOverload) (operand : LogicalType) (count : Nat) :
    (overloads.filter (·.signature.operand = operand)).find?
        (·.signature.arity.contains count) =
      overloads.find? (·.signature.accepts operand count) := by
  rw [List.find?_filter]
  simp only [VariadicSignature.accepts, Bool.decide_and, Bool.decide_eq_true]

def resolveVariadic (r : Registry) (op : VariadicOperator) (operand : LogicalType) (count : Nat) :
    Traced VariadicOverload :=
  selectVariadic op (r.tables.variadic.get op) operand count

/-- The overload among some of the operator that a call without operands selects. -/
def selectNullary (op : VariadicOperator) (overloads : List VariadicOverload) :
    Traced VariadicOverload :=
  match overloads.filter (·.signature.arity.contains 0) with
  | [o] => pure o
  | accepting =>
    if accepting.isEmpty && !overloads.isEmpty then
      let ranges := overloads.map (·.signature.arity)
      .fail (.arityMismatch (.variadic op) (expectedText ranges) 0) [.nullaryMismatch op]
    else .fail (.noMatchingOverload (.variadic op) "()") []

def resolveNullary (r : Registry) (op : VariadicOperator) : Traced VariadicOverload :=
  selectNullary op (r.tables.variadic.get op)

end Registry

end ColumnDispatch
