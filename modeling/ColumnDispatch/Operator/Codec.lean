import ColumnDispatch.Json
import ColumnDispatch.Operator

/-! The written forms of identifiers, in JSON and in bytes. An operator of a known class is its
index: an integer, or one byte. An operator of any class carries its class: a one-member object, or
four bytes, the least significant first, before the index. A logical type is its tag, or four bytes.
Reading takes what writing makes and nothing else, except that a type may also be a one-member
object with a null, and that bytes behind the value are left over. -/

namespace ColumnDispatch

inductive DecodeFailure where
  /-- An index in the right form that names no operator. -/
  | index (error : IndexError)
  | malformed
  deriving DecidableEq, Repr

/-! ### Bytes -/

namespace Bytes

/-- The `width` bytes of a number, the least significant first. -/
def littleEndian : Nat → Nat → List UInt8
  | 0, _ => []
  | width + 1, n => UInt8.ofNat n :: littleEndian width (n / 256)

/-- The number that `width` bytes spell, and the bytes behind them. -/
def takeLittleEndian : Nat → List UInt8 → Option (Nat × List UInt8)
  | 0, bytes => some (0, bytes)
  | _ + 1, [] => none
  | width + 1, b :: bytes =>
    (takeLittleEndian width bytes).map fun (n, rest) => (b.toNat + 256 * n, rest)

end Bytes

namespace Catalogue

variable {Op : Type} [Catalogue Op]

def toJson (op : Op) : Json := .integer (index op)

def toBytes (op : Op) : List UInt8 := Bytes.littleEndian 1 (index op)

/-- The operator with an index that is known to be in the right form. -/
def decodeIndex (Op : Type) [Catalogue Op] (i : Nat) : Except DecodeFailure Op :=
  (ofIndex Op i).mapError .index

def ofJson (Op : Type) [Catalogue Op] : Json → Except DecodeFailure Op
  | .integer i => if 0 ≤ i ∧ i < 256 then decodeIndex Op i.toNat else .error .malformed
  | _ => .error .malformed

def ofBytes (Op : Type) [Catalogue Op] (bytes : List UInt8) :
    Except DecodeFailure (Op × List UInt8) := do
  let some (i, rest) := Bytes.takeLittleEndian 1 bytes | .error .malformed
  return (← decodeIndex Op i, rest)

end Catalogue

namespace OperandClass

def all : List OperandClass := [unary, binary, variadic]

end OperandClass

namespace Operator

def toJson (op : Operator) : Json := .object [(op.operandClass.tag, .integer op.index)]

def toBytes (op : Operator) : List UInt8 :=
  Bytes.littleEndian 4 op.operandClass.index ++ Bytes.littleEndian 1 op.index

/-- Reads an operator of the given class by a reader that works for every class. -/
def ofClass {α : Type} (c : OperandClass)
    (read : (Op : Type) → [Catalogue Op] → Except DecodeFailure α) : Except DecodeFailure α :=
  match c with
  | .unary => read UnaryOperator
  | .binary => read BinaryOperator
  | .variadic => read VariadicOperator

def ofJson : Json → Except DecodeFailure Operator
  | .object [(tag, index)] =>
    match OperandClass.all.find? (·.tag == tag) with
    | some c => ofClass c fun Op => (Catalogue.ofJson Op index).map Catalogue.toOperator
    | none => .error .malformed
  | _ => .error .malformed

def ofBytes (bytes : List UInt8) : Except DecodeFailure (Operator × List UInt8) := do
  let some (number, rest) := Bytes.takeLittleEndian 4 bytes | .error .malformed
  let some c := OperandClass.all.find? (·.index == number) | .error .malformed
  ofClass c fun Op =>
    (Catalogue.ofBytes Op rest).map fun (op, left) => (Catalogue.toOperator op, left)

end Operator

namespace LogicalType

def toJson (t : LogicalType) : Json := .string t.tag

def toBytes (t : LogicalType) : List UInt8 := Bytes.littleEndian 4 t.index

def ofTag (tag : String) : Except DecodeFailure LogicalType :=
  match all.find? (·.tag == tag) with
  | some t => .ok t
  | none => .error .malformed

def ofJson : Json → Except DecodeFailure LogicalType
  | .string tag => ofTag tag
  | .object [(tag, .null)] => ofTag tag
  | _ => .error .malformed

def ofBytes (bytes : List UInt8) : Except DecodeFailure (LogicalType × List UInt8) := do
  let some (number, rest) := Bytes.takeLittleEndian 4 bytes | .error .malformed
  let some t := all[number]? | .error .malformed
  return (t, rest)

end LogicalType

end ColumnDispatch
