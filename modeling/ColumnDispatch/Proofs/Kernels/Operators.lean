import ColumnDispatch.Proofs.Kernels.RowForm

/-! Row forms of the unary and binary kernels. Rows of integers and searches may fail, and only with
faults of the computation; no other row does. All but the connectives make a row with a null
null. -/

namespace ColumnDispatch.Kernel

/-! ### Arithmetic -/

theorem isCompute_of_fitted {text : String} {exact : Int} {failure : Failure}
    (h : fitted text exact = .error failure) : failure.IsCompute := by
  unfold fitted at h
  split at h
  · cases h
  · exact ⟨_, (Except.error.inj h).symm⟩

theorem Arithmetic.onlyFaults_onInt64 (op : Arithmetic) (a : Int64) :
    OnlyFaults (op.onInt64 a) := by
  intro b failure h
  have hquotient {exact : Int} {text : String} (h : (if b = 0 then .error (.compute .divideByZero)
      else fitted text exact) = .error failure) : failure.IsCompute := by
    split at h
    · exact ⟨_, (Except.error.inj h).symm⟩
    · exact isCompute_of_fitted h
  cases op with
  | plus | minus | times => exact isCompute_of_fitted h
  | divide => exact hquotient h
  | modulo => exact hquotient (except_map_eq_error_iff.1 h)

/-- An operation on integers, whose rows may fail. -/
def Arithmetic.integerForm (op : Arithmetic) : BinaryForm .int64 .int64 op.kernel :=
  .ofValue op.onInt64 op.onlyFaults_onInt64 (fun _ _ => checkedLengths) (fun _ _ => ⟨_, rfl⟩)
    fun xs ys => by
      rw [← map_ofSameLength]
      exact bind_ofColumn (t := .int64) (checkedRows op.onInt64 xs ys)

/-- An operation on floating-point numbers, whose rows do not fail. -/
def Arithmetic.plainForm (op : Arithmetic) (t : LogicalType)
    (f : t.storage.Cell → t.storage.Cell → t.storage.Cell)
    (h : ∀ xs ys, op.onColumns ⟨t.storage, xs⟩ ⟨t.storage, ys⟩ =
      (plainRows f xs ys).map (Column.mk t.storage)) : BinaryForm t t op.kernel :=
  .ofValue (fun a b => .ok (f a b)) (fun _ _ _ => nofun) (fun _ _ => plainLengths)
    (fun _ _ => ⟨_, rfl⟩) fun xs ys => by
      rw [← map_ofSameLength]
      refine Eq.trans ?_ (bind_ofColumn (plainRows f xs ys))
      rw [← h]
      rfl

def negateIntegersForm : UnaryForm .int64 .int64 negate :=
  ⟨negateInt64, fun _ _ => isCompute_of_fitted, fun _ => bind_ofColumn (t := .int64) _⟩

def absoluteIntegersForm : UnaryForm .int64 .int64 absoluteIntegers :=
  ⟨absoluteInt64, fun _ _ => isCompute_of_fitted, fun _ => except_bind_ok _ _⟩

/-! ### Comparison and logic -/

theorem Comparison.onColumns_same (c : Comparison) (s : Storage) (xs ys : List (Option s.Cell)) :
    c.onColumns ⟨s, xs⟩ ⟨s, ys⟩ = ofSameLength xs ys (comparedLengths xs.length ys.length)
      (eachPair (onBothPresent fun a b => .ok (c.onCells s a b)) xs ys) := by
  simp only [onColumns, dif_pos]
  rfl

def Comparison.form (c : Comparison) (t : LogicalType) : BinaryForm t .bool c.kernel :=
  .ofValue (fun a b => .ok (c.onCells t.storage a b)) (fun _ _ _ => nofun) comparedLengths
    (fun _ _ => ⟨_, rfl⟩) fun xs ys => bind_ofCells (u := .bool) (c.onColumns_same t.storage xs ys)

def connectiveForm (row : Option Bool → Option Bool → Option Bool) :
    BinaryForm .bool .bool (connective row) where
  row x y := .ok (row x y)
  onlyFaults _ _ _ := nofun
  row_of_null x y _ := ⟨row x y, rfl⟩
  mismatch _ _ := logicLengths
  isCompute_mismatch _ _ := ⟨_, rfl⟩
  kernel_ofCells xs ys := bind_ofCells (u := .bool) <| by
    rw [← eachPair_ok row]
    rfl

def logicalNotForm : UnaryForm .bool .bool logicalNot :=
  .ofTotal (!·) fun _ => rfl

/-! ### Texts -/

theorem onlyFaults_isFound (text : String) : OnlyFaults (isFound text) := by
  intro pattern failure h
  unfold isFound at h
  split at h
  · cases h
  · split at h
    · cases h
    · exact ⟨_, (Except.error.inj h).symm⟩

theorem likeColumns_texts (negated : Bool) (xs ys : List (Option String)) :
    likeColumns negated ⟨.utf8, xs⟩ ⟨.utf8, ys⟩ =
      ofSameLength xs ys (comparedLengths xs.length ys.length) (eachPair
        (onBothPresent fun text pattern => .ok (Text.Wildcard.accepts pattern text != negated))
        xs ys) := rfl

def likeForm (negated : Bool) : BinaryForm .string .bool (like negated) :=
  .ofValue (fun text pattern => .ok (Text.Wildcard.accepts pattern text != negated))
    (fun _ _ _ => nofun) comparedLengths (fun _ _ => ⟨_, rfl⟩)
    fun xs ys => bind_ofCells (u := .bool) (likeColumns_texts negated xs ys)

def searchForm : BinaryForm .string .bool search :=
  .ofValue isFound onlyFaults_isFound (fun _ _ => searchLengths) (fun _ _ => ⟨_, rfl⟩)
    fun _ _ => bind_ofCells (u := .bool) rfl

theorem notSearch_eq (left right : Batch) :
    notSearch left right = ((searchCells left right).map (List.map negation)).bind
      fun cells => .ok (.ofCells .bool cells) := by
  unfold notSearch
  cases searchCells left right <;> rfl

/-- A search that fails does so whether its result is negated or not. -/
theorem map_negation_search (xs ys : List (Option String)) :
    (ofSameLength xs ys searchLengths (eachPair (onBothPresent isFound) xs ys)).map
        (List.map negation) =
      ofSameLength xs ys searchLengths
        (eachPair (onBothPresent fun a b => (isFound a b).map (!·)) xs ys) := by
  have hrow (x y : Option String) : (onBothPresent isFound x y).map negation =
      onBothPresent (fun a b => (isFound a b).map (!·)) x y := map_onBothPresent isFound _ x y
  simp only [map_ofSameLength, eachPair, map_eachRow, hrow]

def notSearchForm : BinaryForm .string .bool notSearch :=
  .ofValue (fun text pattern => (isFound text pattern).map (!·))
    (fun a b failure h => onlyFaults_isFound a b failure (except_map_eq_error_iff.1 h))
    (fun _ _ => searchLengths) (fun _ _ => ⟨_, rfl⟩)
    fun xs ys => (notSearch_eq _ _).trans (bind_ofCells (u := .bool) (map_negation_search xs ys))

end ColumnDispatch.Kernel
