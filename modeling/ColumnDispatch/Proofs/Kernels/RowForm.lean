import ColumnDispatch.Builtin
import ColumnDispatch.Proofs.Batches.Canonical
import ColumnDispatch.Proofs.Kernels.Rows

/-! Row forms of kernels. On canonical batches a kernel in row form is a function of the cells of
one row, run down the rows: a function of one value, which is the form of a cast too, of two cells,
or of a row of cells that cannot fail. An overload is row-wise if its kernel has the form of its
class. -/

namespace ColumnDispatch

open Kernel

/-! ### Forms -/

/-- A kernel of one operand that computes a row from its value, and makes a null row null. -/
structure UnaryForm (t u : LogicalType) (kernel : UnaryKernel) where
  value : t.storage.Cell → Except Failure u.storage.Cell
  onlyFaults : OnlyFaults value
  kernel_ofCells : ∀ cells,
    kernel (.ofCells t cells) = (eachRow (onPresent value) cells).map (.ofCells u)

/-- A kernel of two operands of one type and one length that computes a row from its two cells. A
row with a null does not fail. -/
structure BinaryForm (t u : LogicalType) (kernel : BinaryKernel) where
  row : Option t.storage.Cell → Option t.storage.Cell → Except Failure (Option u.storage.Cell)
  onlyFaults : ∀ x, OnlyFaults (row x)
  row_of_null : ∀ x y, x = none ∨ y = none → ∃ z, row x y = .ok z
  mismatch : Nat → Nat → Failure
  isCompute_mismatch : ∀ m n, (mismatch m n).IsCompute
  kernel_ofCells : ∀ xs ys, kernel (.ofCells t xs) (.ofCells t ys) =
    ofSameLength xs ys (mismatch xs.length ys.length)
      ((eachPair row xs ys).map (.ofCells u))

/-- A row with a null is null. -/
def BinaryForm.IsStrict {t u : LogicalType} {kernel : BinaryKernel} (form : BinaryForm t u kernel) :
    Prop :=
  ∀ x y, x = none ∨ y = none → form.row x y = .ok none

/-- What a kernel may answer for a result of type `u` with `n` rows: such a result in canonical
format, or a fault of the computation. -/
structure IsAnswer (u : LogicalType) (n : Nat) (outcome : Except Failure Batch) : Prop where
  result : ∀ v, outcome = .ok v → v.type = u ∧ v.IsCanonical ∧ v.length = n
  fault : ∀ failure, outcome = .error failure → failure.IsCompute

/-- A kernel of one operand or more, all of one type, that computes a row from its cells and does
not fail. If the operands are not of one length it may stop, or not come to those that differ. -/
structure VariadicForm (t : LogicalType) (kernel : VariadicKernel) where
  row : List (Option t.storage.Cell) → Option t.storage.Cell
  kernel_ofColumns : ∀ n first rest, (∀ column ∈ first :: rest, column.length = n) →
    kernel ((first :: rest).map (.ofCells t)) =
      .ok (.ofCells t ((rowsOf n (first :: rest)).map row))
  isAnswer : ∀ first rest, IsAnswer t first.length (kernel ((first :: rest).map (.ofCells t)))

/-- A row with a null is null. -/
def VariadicForm.IsStrict {t : LogicalType} {kernel : VariadicKernel}
    (form : VariadicForm t kernel) : Prop :=
  ∀ cells, none ∈ cells → form.row cells = none

/-- Whether a null among the cells of a row makes the row null. Only the connectives and the choice
of a value can make something of such a row. -/
def Operator.isStrict : Operator → Bool
  | .binary .and | .binary .or | .variadic .coalesce => false
  | _ => true

/-- An overload whose kernel has a row form. -/
inductive Registration.IsRowwise : Registration → Prop
  | unary {op : UnaryOperator} {t u : LogicalType} {kernel : UnaryKernel}
      (form : UnaryForm t u kernel) : IsRowwise (Builtin.unary op t u kernel)
  | binary {op : BinaryOperator} {t u : LogicalType} {kernel : BinaryKernel} (hop : op ≠ .cast)
      (form : BinaryForm t u kernel) (hstrict : (Operator.binary op).isStrict → form.IsStrict) :
      IsRowwise (Builtin.binary op t t u kernel)
  | cast {t u : LogicalType} {kernel : UnaryKernel} (form : UnaryForm t u kernel) :
      IsRowwise (Builtin.binary .cast t u u fun left _ => kernel left)
  | variadic {op : VariadicOperator} {t : LogicalType} {min : Nat} {kernel : VariadicKernel}
      (hmin : 0 < min) (form : VariadicForm t kernel)
      (hstrict : (Operator.variadic op).isStrict → form.IsStrict) :
      IsRowwise (Builtin.variadic op t min kernel)

variable {t u : LogicalType}

/-! ### Answers -/

theorem isAnswer_map {n : Nat} {rows : Except Failure (List (Option u.storage.Cell))}
    (hlength : ∀ cells, rows = .ok cells → cells.length = n)
    (hfault : ∀ failure, rows = .error failure → failure.IsCompute) :
    IsAnswer u n (rows.map (.ofCells u)) where
  result v h := by
    obtain ⟨cells, hcells, rfl⟩ := except_map_eq_ok_iff.1 h
    exact ⟨rfl, rfl, hlength cells hcells⟩
  fault failure h := hfault failure (except_map_eq_error_iff.1 h)

theorem UnaryForm.isAnswer {kernel : UnaryKernel} (form : UnaryForm t u kernel)
    (cells : List (Option t.storage.Cell)) :
    IsAnswer u cells.length (kernel (.ofCells t cells)) := by
  have hrow : OnlyFaults (onPresent form.value) := fun x failure h => by
    match x with
    | some a => exact form.onlyFaults a failure (except_map_eq_error_iff.1 h)
    | none => cases h
  rw [form.kernel_ofCells]
  exact isAnswer_map (fun _ => length_of_eachRow) fun _ => isCompute_of_eachRow hrow

theorem BinaryForm.isAnswer {kernel : BinaryKernel} (form : BinaryForm t u kernel)
    (xs ys : List (Option t.storage.Cell)) :
    IsAnswer u xs.length (kernel (.ofCells t xs) (.ofCells t ys)) := by
  rw [form.kernel_ofCells, ← map_ofSameLength, ofSameLength]
  split
  · rename_i hlength
    refine isAnswer_map (fun cells h => ?_) fun _ =>
      isCompute_of_eachRow fun pair failure => form.onlyFaults pair.1 pair.2 failure
    rw [length_of_eachRow h, List.length_zip, ← hlength, Nat.min_self]
  · refine isAnswer_map (fun _ => nofun) ?_
    rintro _ ⟨⟩
    exact form.isCompute_mismatch _ _

theorem BinaryForm.kernel_of_length_eq {kernel : BinaryKernel} (form : BinaryForm t u kernel)
    {xs ys : List (Option t.storage.Cell)} (h : xs.length = ys.length) :
    kernel (.ofCells t xs) (.ofCells t ys) = (eachPair form.row xs ys).map (.ofCells u) := by
  rw [form.kernel_ofCells, ofSameLength, if_pos h]

/-- Operands of different lengths are a fault, whatever their rows. -/
theorem BinaryForm.isCompute_of_length_ne {kernel : BinaryKernel} (form : BinaryForm t u kernel)
    {xs ys : List (Option t.storage.Cell)} (h : xs.length ≠ ys.length) :
    ∃ fault, kernel (.ofCells t xs) (.ofCells t ys) = .error (.compute fault) := by
  obtain ⟨fault, hfault⟩ := form.isCompute_mismatch xs.length ys.length
  exact ⟨fault, by rw [form.kernel_ofCells, ofSameLength, if_neg h, hfault]⟩

/-! ### Ways to a form -/

/-- Canonical rows are a batch as they are. -/
theorem bind_ofColumn (rows : Except Failure (List (Option t.storage.Cell))) :
    (rows.map (Column.mk t.storage)).bind Batch.ofColumn = rows.map (.ofCells t) := by
  cases rows with
  | error failure => rfl
  | ok cells => exact Batch.IsCanonical.ofColumn_column (b := .ofCells t cells) rfl

theorem bind_ofCells {rows result : Except Failure (List (Option u.storage.Cell))}
    {α β : Type} {xs : List α} {ys : List β} {mismatch : Failure}
    (h : rows = ofSameLength xs ys mismatch result) :
    (rows.bind fun cells => .ok (Batch.ofCells u cells)) =
      ofSameLength xs ys mismatch (result.map (.ofCells u)) := by
  rw [except_bind_ok, h, map_ofSameLength]

/-- A row is computed from its value, which cannot fail. -/
def UnaryForm.ofTotal {kernel : UnaryKernel}
    (f : t.storage.Cell → u.storage.Cell)
    (kernel_ofCells : ∀ cells,
      kernel (.ofCells t cells) = .ok (.ofCells u (cells.map (·.map f)))) :
    UnaryForm t u kernel where
  value a := .ok (f a)
  onlyFaults _ _ := nofun
  kernel_ofCells cells := by
    rw [eachRow_onPresent_ok]
    exact kernel_ofCells cells

/-- A row is computed from its two values, and a row with a null is null. -/
def BinaryForm.ofValue {kernel : BinaryKernel}
    (value : t.storage.Cell → t.storage.Cell → Except Failure u.storage.Cell)
    (onlyFaults : ∀ a, OnlyFaults (value a))
    (mismatch : Nat → Nat → Failure) (isCompute_mismatch : ∀ m n, (mismatch m n).IsCompute)
    (kernel_ofCells : ∀ xs ys, kernel (.ofCells t xs) (.ofCells t ys) =
      ofSameLength xs ys (mismatch xs.length ys.length)
        ((eachPair (onBothPresent value) xs ys).map (.ofCells u))) : BinaryForm t u kernel where
  row := onBothPresent value
  onlyFaults x y failure h := by
    match x, y with
    | some a, some b => exact onlyFaults a b failure (except_map_eq_error_iff.1 h)
    | some _, none | none, _ => cases h
  row_of_null x y h := by
    match x, y, h with
    | none, _, _ | some _, none, _ => exact ⟨none, rfl⟩
  mismatch := mismatch
  isCompute_mismatch := isCompute_mismatch
  kernel_ofCells := kernel_ofCells

theorem BinaryForm.isStrict_ofValue {kernel : BinaryKernel}
    {value : t.storage.Cell → t.storage.Cell → Except Failure u.storage.Cell}
    {onlyFaults : ∀ a, OnlyFaults (value a)}
    {mismatch : Nat → Nat → Failure} {isCompute_mismatch : ∀ m n, (mismatch m n).IsCompute}
    {kernel_ofCells : ∀ xs ys, kernel (.ofCells t xs) (.ofCells t ys) =
      ofSameLength xs ys (mismatch xs.length ys.length)
        ((eachPair (onBothPresent value) xs ys).map (.ofCells u))} :
    (BinaryForm.ofValue value onlyFaults mismatch isCompute_mismatch kernel_ofCells).IsStrict := by
  intro x y h
  match x, y, h with
  | none, _, _ | some _, none, _ => rfl

/-! ### One row -/

theorem UnaryForm.kernel_null {kernel : UnaryKernel} (form : UnaryForm t u kernel) :
    kernel (.ofCells t [none]) = .ok (.ofCells u [none]) :=
  form.kernel_ofCells [none]

theorem BinaryForm.kernel_singletons {kernel : BinaryKernel} (form : BinaryForm t u kernel)
    (x y : Option t.storage.Cell) :
    kernel (.ofCells t [x]) (.ofCells t [y]) = (form.row x y).map fun z => .ofCells u [z] := by
  have hlength : [x].length = [y].length := rfl
  rw [form.kernel_of_length_eq hlength, eachPair, List.zip_cons_cons, List.zip_nil_left,
    eachRow_singleton]
  cases form.row x y <;> rfl

/-- A row with a null does not fail. -/
theorem BinaryForm.exists_ok_of_null {kernel : BinaryKernel} (form : BinaryForm t u kernel)
    {x y : Option t.storage.Cell} (h : x = none ∨ y = none) :
    ∃ z, kernel (.ofCells t [x]) (.ofCells t [y]) = .ok (.ofCells u [z]) ∧
      (form.IsStrict → z = none) := by
  obtain ⟨z, hz⟩ := form.row_of_null x y h
  refine ⟨z, by rw [form.kernel_singletons, hz]; rfl, fun hstrict => ?_⟩
  exact Except.ok.inj (hz.symm.trans (hstrict x y h))

theorem VariadicForm.kernel_singletons {kernel : VariadicKernel} (form : VariadicForm t kernel)
    (first : Option t.storage.Cell) (rest : List (Option t.storage.Cell)) :
    kernel (((first :: rest).map ([·])).map (.ofCells t)) =
      .ok (.ofCells t [form.row (first :: rest)]) := by
  have hone : ∀ column ∈ [first] :: rest.map ([·]), column.length = 1 := by simp
  have hkernel := form.kernel_ofColumns 1 [first] (rest.map ([·])) hone
  rw [← List.map_cons (f := ([·])), rowsOf_singletons] at hkernel
  exact hkernel

end ColumnDispatch
