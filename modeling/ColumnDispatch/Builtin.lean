import ColumnDispatch.Kernel.Arithmetic
import ColumnDispatch.Kernel.Cast
import ColumnDispatch.Kernel.Coalesce
import ColumnDispatch.Kernel.Comparison
import ColumnDispatch.Kernel.Logic
import ColumnDispatch.Kernel.Text
import ColumnDispatch.Registry.Builder

/-! The built-in overloads, in the order in which they are registered: arithmetic, comparison and
logic, texts, casts, and the choice of the first value that is not null. -/

namespace ColumnDispatch

namespace Builtin

open Kernel

/-! ### Overloads -/

def unary (op : UnaryOperator) (operand returns : LogicalType) (kernel : UnaryKernel) :
    Registration :=
  .unary ⟨op, ⟨operand⟩, returns, kernel⟩

def binary (op : BinaryOperator) (left right returns : LogicalType) (kernel : BinaryKernel) :
    Registration :=
  .binary ⟨op, ⟨left, right⟩, returns, kernel⟩

/-- An overload that takes `min` arguments of one type or more, and returns that type. -/
def variadic (op : VariadicOperator) (operand : LogicalType) (min : Nat)
    (kernel : VariadicKernel) : Registration :=
  .variadic ⟨op, ⟨operand, .atLeast min⟩, operand, kernel⟩

/-! ### Groups -/

def numericTypes : List LogicalType := [.int64, .float32, .float64]

def arithmetic : List Registration :=
  numericTypes.flatMap (fun t =>
    unary .negate t t negate ::
      Arithmetic.all.map fun op => binary op.operator t t t op.kernel) ++
  [unary .absolute .int64 .int64 absoluteIntegers,
    unary .absolute .float32 .float32 absoluteSingles,
    unary .absolute .float64 .float64 absoluteDoubles,
    binary .integerDivide .int64 .int64 .int64 Arithmetic.divide.kernel]

def comparison : List Registration :=
  LogicalType.all.flatMap fun t =>
    Comparison.all.map fun c => binary c.operator t t .bool c.kernel

def logic : List Registration :=
  [binary .and .bool .bool .bool logicalAnd,
    binary .or .bool .bool .bool logicalOr,
    unary .not .bool .bool logicalNot]

def texts : List Registration :=
  [binary .like .string .string .bool (like false),
    binary .notLike .string .string .bool (like true),
    binary .search .string .string .bool search,
    binary .notSearch .string .string .bool notSearch,
    variadic .concat .string 2 concat]

/-- Whether values of a type can be cast to another one. -/
def isCastable (source target : LogicalType) : Bool :=
  source = target || (source.isNumeric && target.isNumeric) ||
    source = .string || target = .string || (source.isTemporal && target.isTemporal) ||
    (source = .int64 && target = .bool) || (source = .bool && target = .int64)

def casts : List Registration :=
  LogicalType.all.flatMap fun source =>
    (LogicalType.all.filter (isCastable source)).map fun target =>
      binary .cast source target target (cast target)

def choices : List Registration := LogicalType.all.map fun t => variadic .coalesce t 1 coalesce

def all : List Registration := arithmetic ++ comparison ++ logic ++ texts ++ casts ++ choices

end Builtin

namespace Builder

/-- Registers the built-in overloads, and reports their number when none was refused. -/
def registerBuiltins (b : Builder) : Progress :=
  let progress := b.registerAll Builtin.all
  if progress.failure?.isSome then progress
  else
    let added := progress.builder.size - b.size
    { progress with events := progress.events ++ [.builtinsRegistered added] }

/-- A builder with the given settings, with the built-in overloads if they ask for them. -/
def ofSettings (settings : Settings) : Progress :=
  let b : Builder := ⟨settings, .empty⟩
  if settings.includeBuiltins then b.registerBuiltins else ⟨b, [], none⟩

end Builder

/-- The registry of the built-in overloads under the default settings. -/
def Registry.builtin : Registry := (Builder.ofSettings {}).builder.freeze.1

end ColumnDispatch
