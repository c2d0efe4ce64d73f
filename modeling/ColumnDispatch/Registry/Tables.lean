import ColumnDispatch.Overload
import ColumnDispatch.Registry.Keyed
import ColumnDispatch.Registry.Slots

/-! The overloads of a registry, by class and operator. An operator of a fixed class keeps its
overloads under their signatures; a variadic one keeps them in the order of registration. A
registration goes to the slot of its operator, which may refuse it: a fixed slot if the signature is
taken, a variadic one if the range of argument counts has crossed bounds or shares a count with an
overload of the same type. -/

namespace ColumnDispatch

abbrev FixedSlots (Op Sig Kernel : Type) [Catalogue Op] :=
  Slots Op (Keyed Sig (Overload Op Sig Kernel))

abbrev VariadicSlots := Slots VariadicOperator (List VariadicOverload)

structure Tables where
  unary : FixedSlots UnaryOperator UnarySignature UnaryKernel
  binary : FixedSlots BinaryOperator BinarySignature BinaryKernel
  variadic : VariadicSlots

namespace Tables

def empty : Tables := ⟨.all .empty, .all .empty, .all []⟩

/-- The number of overloads over all classes. -/
def size (t : Tables) : Nat :=
  t.unary.total Keyed.size + t.binary.total Keyed.size + t.variadic.total List.length

end Tables

inductive Registration where
  | unary (overload : UnaryOverload)
  | binary (overload : BinaryOverload)
  | variadic (overload : VariadicOverload)

namespace Registration

def operator : Registration → Operator
  | unary o => .unary o.operator
  | binary o => .binary o.operator
  | variadic o => .variadic o.operator

def signatureText : Registration → String
  | unary o => toString o.signature
  | binary o => toString o.signature
  | variadic o => toString o.signature

def returns : Registration → LogicalType
  | unary o => o.returns
  | binary o => o.returns
  | variadic o => o.returns

end Registration

/-- The slots with one more overload of a fixed class, unless its signature is taken. -/
def FixedSlots.register {Op Sig Kernel : Type} [Catalogue Op] [Signature Sig] [DecidableEq Sig]
    (s : FixedSlots Op Sig Kernel) (o : Overload Op Sig Kernel) :
    Except Failure (FixedSlots Op Sig Kernel) :=
  let slot := s.get o.operator
  if slot.contains o.signature then
    .error (.duplicateSignature (Catalogue.toOperator o.operator) (toString o.signature))
  else .ok (s.set o.operator (slot.insert o.signature o))

/-- The slots with one more variadic overload. Bounds are checked before conflicts are looked for; a
refusal for a conflict names the new signature and that of the earliest overload in the way. -/
def VariadicSlots.register (s : VariadicSlots) (o : VariadicOverload) :
    Except Failure VariadicSlots :=
  let operator := Catalogue.toOperator o.operator
  let arity := o.signature.arity
  if arity.isValid then
    let slot := s.get o.operator
    match slot.find? (Signature.conflicts ·.signature o.signature) with
    | some other =>
      .error (.duplicateSignature operator s!"{o.signature} overlaps {other.signature}")
    | none => .ok (s.set o.operator (slot ++ [o]))
  else .error (.invalidArity operator arity.min (arity.max.getD 0))

namespace Tables

/-- The tables with one more overload. -/
def register (t : Tables) : Registration → Except Failure Tables
  | .unary o => (t.unary.register o).map ({ t with unary := · })
  | .binary o => (t.binary.register o).map ({ t with binary := · })
  | .variadic o => (t.variadic.register o).map ({ t with variadic := · })

end Tables

end ColumnDispatch
