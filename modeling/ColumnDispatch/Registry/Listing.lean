import ColumnDispatch.Registry.Builder

/-! Introspection: the overloads of an operator in the order of their signatures, and one line of
text for each. -/

namespace ColumnDispatch

/-- Overloads in the order of their signatures. -/
def Overload.sorted {Op Sig Kernel : Type} [Signature Sig] (os : List (Overload Op Sig Kernel)) :
    List (Overload Op Sig Kernel) :=
  os.mergeSort fun a b => (compare a.signature b.signature).isLE

namespace Registry

def unaryOverloads (r : Registry) (op : UnaryOperator) : List UnaryOverload :=
  Overload.sorted (r.tables.unary.get op).values

def binaryOverloads (r : Registry) (op : BinaryOperator) : List BinaryOverload :=
  Overload.sorted (r.tables.binary.get op).values

def variadicOverloads (r : Registry) (op : VariadicOperator) : List VariadicOverload :=
  Overload.sorted (r.tables.variadic.get op)

def describe (r : Registry) : Operator → List String
  | .unary op => (r.unaryOverloads op).map (·.render)
  | .binary op => (r.binaryOverloads op).map (·.render)
  | .variadic op => (r.variadicOverloads op).map (·.render)

end Registry

end ColumnDispatch
