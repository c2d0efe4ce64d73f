import ColumnDispatch.LogicalType

/-! The operator catalogue. Operators come in three classes, by the number of operands they take:
unary, binary and variadic. Inside a class an operator is identified by its index, its place in the
class's list; the name is for people, and two operators of different classes may share one. -/

namespace ColumnDispatch

inductive UnaryOperator where
  | negate | not | absolute
  deriving DecidableEq, Repr

/-- Operand order matters: no operator is taken to be commutative. -/
inductive BinaryOperator where
  | or | and | plus
  | less | lessEqual | greater | greaterEqual | equal | notEqual
  | minus | times | divide | integerDivide | modulo
  | like | notLike | search | notSearch
  | cast
  deriving DecidableEq, Repr

inductive VariadicOperator where
  | concat | coalesce
  deriving DecidableEq, Repr

/-- An operator of any class. -/
inductive Operator where
  | unary (op : UnaryOperator)
  | binary (op : BinaryOperator)
  | variadic (op : VariadicOperator)
  deriving DecidableEq, Repr

inductive OperandClass where
  | unary | binary | variadic
  deriving DecidableEq, Repr

namespace OperandClass

def label : OperandClass → String
  | unary => "unary"
  | binary => "binary"
  | variadic => "multi"

/-- The identifier that the codecs write. -/
def tag : OperandClass → String
  | unary => "Unary"
  | binary => "Binary"
  | variadic => "Multi"

def index : OperandClass → Nat
  | unary => 0
  | binary => 1
  | variadic => 2

end OperandClass

/-- What a class of operators offers: a duplicate-free list of all of them, in index order, their
names, and their place among the operators of all classes. -/
class Catalogue (Op : Type) extends BEq Op, LawfulBEq Op where
  operandClass : OperandClass
  all : List Op
  mem_all : ∀ op, op ∈ all
  nodup_all : all.Nodup
  name : Op → String
  toOperator : Op → Operator

namespace Catalogue

variable {Op : Type} [Catalogue Op]

/-- The number of operators in the class. -/
def count (Op : Type) [Catalogue Op] : Nat := (all : List Op).length

def index (op : Op) : Nat := all.idxOf op

def ofIndex? (Op : Type) [Catalogue Op] (i : Nat) : Option Op := (all : List Op)[i]?

theorem index_lt_count (op : Op) : index op < count Op := List.idxOf_lt_length_of_mem (mem_all op)

theorem ofIndex?_index (op : Op) : ofIndex? Op (index op) = some op := by
  rw [ofIndex?, List.getElem?_eq_getElem (index_lt_count op)]
  exact congrArg some (List.getElem_idxOf (index_lt_count op))

theorem ofIndex?_eq_some_iff {i : Nat} {op : Op} : ofIndex? Op i = some op ↔ i = index op := by
  refine ⟨fun h => ?_, fun h => h ▸ ofIndex?_index op⟩
  have hi : i < (all : List Op).length := (List.getElem?_eq_some_iff.1 h).1
  exact (List.getElem?_inj hi nodup_all).1 (h.trans (ofIndex?_index op).symm)

theorem index_injective {op op' : Op} (h : index op = index op') : op = op' :=
  Option.some.inj ((ofIndex?_index op).symm.trans (h ▸ ofIndex?_index op'))

end Catalogue

namespace UnaryOperator

def name : UnaryOperator → String
  | negate => "-"
  | not => "not"
  | absolute => "abs"

instance : Catalogue UnaryOperator where
  operandClass := .unary
  all := [negate, not, absolute]
  mem_all op := by cases op <;> decide
  nodup_all := by decide
  name := name
  toOperator := .unary

theorem name_injective {op op' : UnaryOperator} (h : op.name = op'.name) : op = op' := by
  have hall : ∀ op ∈ Catalogue.all, ∀ op' ∈ Catalogue.all, name op = name op' → op = op' := by
    decide
  exact hall op (Catalogue.mem_all op) op' (Catalogue.mem_all op') h

end UnaryOperator

namespace BinaryOperator

def name : BinaryOperator → String
  | or => "or"
  | and => "and"
  | plus => "+"
  | less => "<"
  | lessEqual => "<="
  | greater => ">"
  | greaterEqual => ">="
  | equal => "="
  | notEqual => "<>"
  | minus => "-"
  | times => "*"
  | divide => "/"
  | integerDivide => "div"
  | modulo => "%"
  | like => "like"
  | notLike => "not like"
  | search => "match"
  | notSearch => "not match"
  | cast => "cast"

instance : Catalogue BinaryOperator where
  operandClass := .binary
  all := [or, and, plus, less, lessEqual, greater, greaterEqual, equal, notEqual, minus, times,
    divide, integerDivide, modulo, like, notLike, search, notSearch, cast]
  mem_all op := by cases op <;> decide
  nodup_all := by decide
  name := name
  toOperator := .binary

theorem name_injective {op op' : BinaryOperator} (h : op.name = op'.name) : op = op' := by
  have hall : ∀ op ∈ Catalogue.all, ∀ op' ∈ Catalogue.all, name op = name op' → op = op' := by
    decide
  exact hall op (Catalogue.mem_all op) op' (Catalogue.mem_all op') h

end BinaryOperator

namespace VariadicOperator

def name : VariadicOperator → String
  | concat => "concat"
  | coalesce => "coalesce"

instance : Catalogue VariadicOperator where
  operandClass := .variadic
  all := [concat, coalesce]
  mem_all op := by cases op <;> decide
  nodup_all := by decide
  name := name
  toOperator := .variadic

theorem name_injective {op op' : VariadicOperator} (h : op.name = op'.name) : op = op' := by
  have hall : ∀ op ∈ Catalogue.all, ∀ op' ∈ Catalogue.all, name op = name op' → op = op' := by
    decide
  exact hall op (Catalogue.mem_all op) op' (Catalogue.mem_all op') h

end VariadicOperator

namespace Operator

def name : Operator → String
  | unary op => op.name
  | binary op => op.name
  | variadic op => op.name

instance : ToString Operator := ⟨name⟩

def operandClass : Operator → OperandClass
  | unary _ => .unary
  | binary _ => .binary
  | variadic _ => .variadic

/-- The index of the operator inside its class. -/
def index : Operator → Nat
  | unary op => Catalogue.index op
  | binary op => Catalogue.index op
  | variadic op => Catalogue.index op

/-- Classes come first, then indices. -/
instance : Ord Operator :=
  ⟨fun a b => (compare a.operandClass.index b.operandClass.index).then (compare a.index b.index)⟩

end Operator

/-- An index that names no operator of a class. -/
structure IndexError where
  operandClass : OperandClass
  index : Nat
  count : Nat
  deriving DecidableEq, Repr

def IndexError.message (e : IndexError) : String :=
  s!"{e.operandClass.label} operator index {e.index} out of range (class has {e.count} operators)"

/-- The operator with the given index, or why there is none. -/
def Catalogue.ofIndex (Op : Type) [Catalogue Op] (i : Nat) : Except IndexError Op :=
  match ofIndex? Op i with
  | some op => .ok op
  | none => .error ⟨operandClass Op, i, count Op⟩

end ColumnDispatch
