import ColumnDispatch.Arity
import ColumnDispatch.LogicalType

/-! What an overload accepts: one type, an ordered pair of types, or one type shared by a range of
argument counts. Two signatures of a class conflict when some call fits both; for the fixed classes
that is equality. -/

namespace ColumnDispatch

@[ext] structure UnarySignature where
  operand : LogicalType
  deriving DecidableEq, Repr

@[ext] structure BinarySignature where
  left : LogicalType
  right : LogicalType
  deriving DecidableEq, Repr

@[ext] structure VariadicSignature where
  /-- The type of every argument. -/
  operand : LogicalType
  arity : Arity
  deriving DecidableEq, Repr

/-- What registration and introspection need to know of a class of signatures. -/
class Signature (Sig : Type) extends Ord Sig, ToString Sig where
  conflicts : Sig → Sig → Bool
  /-- The left side of a rendered overload, with the operator's name in its place. -/
  renderCall : String → Sig → String
  /-- The fields, for inspection. -/
  inspect : Sig → String
  /-- The name of the overloads of the class, for inspection. -/
  recordName : String

/-- A record with its fields, as inspection shows it. -/
def inspectRecord (name : String) (fields : List (String × String)) : String :=
  let shown := fields.map fun (field, value) => field ++ ": " ++ value
  name ++ " \x7b " ++ ", ".intercalate shown ++ " \x7d"

namespace UnarySignature

def describe (s : UnarySignature) : String := s!"({s.operand})"

instance : Signature UnarySignature where
  compare s t := compare s.operand t.operand
  toString := describe
  conflicts s t := s = t
  renderCall op s := s!"{op} {s.operand}"
  inspect s := inspectRecord "UnarySignature" [("operand", s.operand.tag)]
  recordName := "UnaryOverload"

instance : Std.TransOrd UnarySignature :=
  inferInstanceAs (Std.TransCmp (compareOn UnarySignature.operand))

instance : Std.LawfulEqOrd UnarySignature where
  eq_of_compare h := UnarySignature.ext (Std.LawfulEqOrd.eq_of_compare h)

theorem compare_eq_lt_iff {s t : UnarySignature} :
    compare s t = .lt ↔ s.operand.index < t.operand.index :=
  Nat.compare_eq_lt

theorem conflicts_iff {s t : UnarySignature} : Signature.conflicts s t ↔ s = t := by
  simp [Signature.conflicts]

theorem conflicts_comm (s t : UnarySignature) :
    Signature.conflicts s t = Signature.conflicts t s := by
  simp only [Signature.conflicts, eq_comm]

end UnarySignature

namespace BinarySignature

def describe (s : BinarySignature) : String := s!"({s.left}, {s.right})"

instance : Signature BinarySignature where
  compare s t := (compare s.left t.left).then (compare s.right t.right)
  toString := describe
  conflicts s t := s = t
  renderCall op s := s!"{s.left} {op} {s.right}"
  inspect s := inspectRecord "BinarySignature" [("left", s.left.tag), ("right", s.right.tag)]
  recordName := "BinaryOverload"

instance : Std.TransOrd BinarySignature :=
  inferInstanceAs (Std.TransCmp (compareLex (compareOn BinarySignature.left)
    (compareOn BinarySignature.right)))

instance : Std.LawfulEqOrd BinarySignature where
  eq_of_compare h := by
    obtain ⟨hleft, hright⟩ := Ordering.then_eq_eq.1 h
    exact BinarySignature.ext (Std.LawfulEqOrd.eq_of_compare hleft)
      (Std.LawfulEqOrd.eq_of_compare hright)

theorem compare_eq_lt_iff {s t : BinarySignature} :
    compare s t = .lt ↔
      s.left.index < t.left.index ∨ s.left = t.left ∧ s.right.index < t.right.index := by
  have hcompare : compare s t = (compare s.left t.left).then (compare s.right t.right) := rfl
  rw [hcompare, Ordering.then_eq_lt, Std.compare_eq_iff_eq]
  exact or_congr Nat.compare_eq_lt (and_congr_right fun _ => Nat.compare_eq_lt)

theorem conflicts_iff {s t : BinarySignature} : Signature.conflicts s t ↔ s = t := by
  simp [Signature.conflicts]

theorem conflicts_comm (s t : BinarySignature) :
    Signature.conflicts s t = Signature.conflicts t s := by
  simp only [Signature.conflicts, eq_comm]

end BinarySignature

def Arity.inspect (a : Arity) : String :=
  let max := match a.max with
    | none => "None"
    | some m => s!"Some({m})"
  inspectRecord "Arity" [("min", toString a.min), ("max", max)]

namespace VariadicSignature

def describe (s : VariadicSignature) : String := s!"({s.operand}, ...) with {s.arity} arguments"

/-- Whether the signature accepts `count` arguments of type `operand`. -/
def accepts (s : VariadicSignature) (operand : LogicalType) (count : Nat) : Bool :=
  s.operand = operand && s.arity.contains count

instance : Signature VariadicSignature where
  compare s t := (compare s.operand t.operand).then (compare s.arity t.arity)
  toString := describe
  conflicts s t := s.operand = t.operand && s.arity.overlaps t.arity
  renderCall op s := s!"{op}({s.operand}, ...) [{s.arity}]"
  inspect s :=
    inspectRecord "MultiSignature" [("operand", s.operand.tag), ("arity", s.arity.inspect)]
  recordName := "MultiOverload"

instance : Std.TransOrd VariadicSignature :=
  inferInstanceAs (Std.TransCmp (compareLex (compareOn VariadicSignature.operand)
    (compareOn VariadicSignature.arity)))

instance : Std.LawfulEqOrd VariadicSignature where
  eq_of_compare h := by
    obtain ⟨hoperand, harity⟩ := Ordering.then_eq_eq.1 h
    exact VariadicSignature.ext (Std.LawfulEqOrd.eq_of_compare hoperand)
      (Std.LawfulEqOrd.eq_of_compare harity)

theorem compare_eq_lt_iff {s t : VariadicSignature} :
    compare s t = .lt ↔
      s.operand.index < t.operand.index ∨ s.operand = t.operand ∧ s.arity.Precedes t.arity := by
  have hcompare : compare s t = (compare s.operand t.operand).then (compare s.arity t.arity) := rfl
  rw [hcompare, Ordering.then_eq_lt, Std.compare_eq_iff_eq, Arity.compare_eq_lt_iff]
  exact or_congr_left Nat.compare_eq_lt

end VariadicSignature

end ColumnDispatch
