import ColumnDispatch.Operator

/-! Why a call fails. Registration, resolution and the result check have causes of their own; a
failure inside a kernel is either a fault of the computation on columns or a text of the kernel's
own. Each cause has one message. -/

namespace ColumnDispatch

/-- What a fault of a column computation is about. -/
inductive FaultSubject where
  | notYetImplemented | external | cast | memory | parse | schema | compute | overflow
  | csv | json | io | ipc | invalidArgument | parquet | cDataInterface
  deriving DecidableEq, Repr

def FaultSubject.heading : FaultSubject → String
  | notYetImplemented => "Not yet implemented: "
  | external => "External error: "
  | cast => "Cast error: "
  | memory => "Memory error: "
  | parse => "Parser error: "
  | schema => "Schema error: "
  | compute => "Compute error: "
  | overflow => "Arithmetic overflow: "
  | csv => "Csv error: "
  | json => "Json error: "
  | io => "Io error: "
  | ipc => "Ipc error: "
  | invalidArgument => "Invalid argument error: "
  | parquet => "Parquet argument error: "
  | cDataInterface => "C Data interface error: "

/-- A fault of a computation on columns. -/
inductive ComputeFault where
  | about (subject : FaultSubject) (text : String)
  | divideByZero
  | dictionaryKeyOverflow
  | runEndIndexOverflow
  deriving DecidableEq, Repr

def ComputeFault.message : ComputeFault → String
  | about subject text => subject.heading ++ text
  | divideByZero => "Divide by zero error"
  | dictionaryKeyOverflow => "Dictionary key bigger than the key type"
  | runEndIndexOverflow => "Run end encoded array index overflow error"

inductive Failure where
  /-- Registration: some call would fit the new signature and one that is there. -/
  | duplicateSignature (operator : Operator) (signature : String)
  /-- Registration: a range of argument counts with crossed bounds. -/
  | invalidArity (operator : Operator) (min max : Nat)
  /-- Resolution: no signature has the operand types. -/
  | noMatchingOverload (operator : Operator) (types : String)
  /-- Resolution: signatures have the operand type, but none accepts the argument count. -/
  | arityMismatch (operator : Operator) (expected : String) (actual : Nat)
  /-- The kernel's batch is not of the declared type. -/
  | returnTypeMismatch (operator : Operator) (expected actual : LogicalType)
  /-- A storage format with no logical type. -/
  | unsupportedType (format : String)
  | compute (fault : ComputeFault)
  | kernel (text : String)
  deriving DecidableEq, Repr

namespace Failure

def message : Failure → String
  | duplicateSignature op signature => s!"Duplicate signature for operator `{op}`: {signature}"
  | invalidArity op min max => s!"Invalid arity for operator `{op}`: min {min} exceeds max {max}"
  | noMatchingOverload op types => s!"operator `{op}` not defined for types {types}"
  | arityMismatch op expected actual =>
    s!"operator `{op}` expects {expected} arguments, got {actual}"
  | returnTypeMismatch op expected actual =>
    s!"operator `{op}` declared return type {expected}, kernel produced {actual}"
  | unsupportedType format => s!"Unsupported type: {format}"
  | compute fault => fault.message
  | kernel text => s!"Kernel error: {text}"

/-- Whether the failure was raised inside a kernel rather than by dispatch. -/
def isKernelFailure : Failure → Bool
  | compute _ | kernel _ => true
  | _ => false

end Failure

/-! ### Outcomes -/

section Outcomes

variable {ε α β : Type} {x : Except ε α} {f : α → β}

theorem except_map_eq_ok_iff {b : β} : x.map f = .ok b ↔ ∃ a, x = .ok a ∧ f a = b := by
  cases x <;> simp [Except.map]

theorem except_map_eq_error_iff {failure : ε} :
    x.map f = .error failure ↔ x = .error failure := by
  cases x <;> simp [Except.map]

theorem exists_except_map_ok_iff : (∃ b, x.map f = .ok b) ↔ ∃ a, x = .ok a := by
  cases x <;> simp [Except.map]

theorem except_bind_ok (x : Except ε α) (f : α → β) :
    (x.bind fun a => .ok (f a)) = x.map f := by
  cases x <;> rfl

end Outcomes

end ColumnDispatch
