import ColumnDispatch.Batch
import ColumnDispatch.Signature

/-! Overloads. An overload is an operator's signature with the declared type of the result and a
kernel. -/

namespace ColumnDispatch

structure Overload (Op Sig Kernel : Type) where
  operator : Op
  signature : Sig
  returns : LogicalType
  kernel : Kernel

abbrev UnaryKernel := Batch → Except Failure Batch

abbrev BinaryKernel := Batch → Batch → Except Failure Batch

abbrev VariadicKernel := List Batch → Except Failure Batch

abbrev UnaryOverload := Overload UnaryOperator UnarySignature UnaryKernel

abbrev BinaryOverload := Overload BinaryOperator BinarySignature BinaryKernel

abbrev VariadicOverload := Overload VariadicOperator VariadicSignature VariadicKernel

namespace Overload

variable {Op Sig Kernel : Type} [Catalogue Op] [Signature Sig]

/-- One line for plans and diagnostics. -/
def render (o : Overload Op Sig Kernel) : String :=
  s!"{Signature.renderCall (Catalogue.name o.operator) o.signature} -> {o.returns}"

/-- The record without its kernel. -/
def inspect (o : Overload Op Sig Kernel) : String :=
  let fields := [("signature", Signature.inspect o.signature), ("return_type", o.returns.tag)]
  let shown := fields.map fun (field, value) => field ++ ": " ++ value
  Signature.recordName Sig ++ " \x7b " ++ ", ".intercalate shown ++ ", .. \x7d"

end Overload

end ColumnDispatch
