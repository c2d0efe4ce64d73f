import ColumnDispatch.Kernel.Rowwise
import Mathlib.Data.List.Forall2

/-! Laws of running a function down the rows. A run succeeds if every row does, and fails with the
failure of the first row that does not, so a run over a slice of the rows gives the slice of the
results. Columns are read as rows by `rowsOf`, and combining columns one after the other is
combining the cells of each row. -/

namespace ColumnDispatch

/-- A fault of a computation on columns. -/
def Failure.IsCompute (failure : Failure) : Prop := ∃ fault, failure = .compute fault

namespace Kernel

/-- A function that fails with faults of the computation only. -/
def OnlyFaults {α β : Type} (f : α → Except Failure β) : Prop :=
  ∀ a failure, f a = .error failure → failure.IsCompute

variable {α β γ : Type} {row : α → Except Failure β} {xs : List α} {ys : List β}

/-! ### Runs -/

@[simp] theorem eachRow_nil (row : α → Except Failure β) : eachRow row [] = .ok [] := rfl

theorem eachRow_cons (row : α → Except Failure β) (x : α) (xs : List α) :
    eachRow row (x :: xs) = (row x).bind fun y => (eachRow row xs).map (y :: ·) := by
  rw [eachRow, List.mapM_cons]
  cases row x with
  | error failure => rfl
  | ok y =>
    rw [← eachRow]
    cases eachRow row xs <;> rfl

/-- A run succeeds if every row does. -/
theorem eachRow_eq_ok_iff : eachRow row xs = .ok ys ↔ xs.map row = ys.map .ok := by
  induction xs generalizing ys with
  | nil => simp [eq_comm]
  | cons x xs ih =>
    rw [eachRow_cons]
    cases hx : row x with
    | error failure => cases ys <;> simp [Except.bind, hx]
    | ok y =>
      cases hxs : eachRow row xs with
      | error failure =>
        have hnone (ys : List β) : xs.map row ≠ ys.map .ok := fun h => by
          simp [ih.2 h] at hxs
        cases ys <;> simp [Except.bind, Except.map, hx, hnone]
      | ok zs =>
        have hzs := ih.1 hxs
        cases ys with
        | nil => simp [Except.bind, Except.map]
        | cons z rest => simp [Except.bind, Except.map, hx, ← ih, hxs]

theorem eachRow_eq_ok_iff_forall₂ :
    eachRow row xs = .ok ys ↔ List.Forall₂ (fun x y => row x = .ok y) xs ys := by
  rw [eachRow_eq_ok_iff, ← List.forall₂_eq_eq_eq, List.forall₂_map_left_iff,
    List.forall₂_map_right_iff]

theorem length_of_eachRow (h : eachRow row xs = .ok ys) : ys.length = xs.length := by
  simpa using (congrArg List.length (eachRow_eq_ok_iff.1 h)).symm

/-- A run over a slice of the rows gives the slice of the results. -/
theorem eachRow_slice (h : eachRow row xs = .ok ys) (offset length : Nat) :
    eachRow row ((xs.drop offset).take length) = .ok ((ys.drop offset).take length) := by
  rw [eachRow_eq_ok_iff] at h ⊢
  simp only [List.map_take, List.map_drop, h]

/-- A run that fails does so for its first row to fail. -/
theorem exists_first_failure {failure : Failure} (h : eachRow row xs = .error failure) :
    ∃ (i : Nat) (x : α), xs[i]? = some x ∧ row x = .error failure ∧
      ∀ j < i, ∀ x', xs[j]? = some x' → ∃ y, row x' = .ok y := by
  induction xs with
  | nil => simp at h
  | cons x xs ih =>
    rw [eachRow_cons] at h
    cases hx : row x with
    | error first =>
      simp only [hx, Except.bind, Except.error.injEq] at h
      exact ⟨0, x, rfl, h ▸ hx, by simp⟩
    | ok y =>
      rw [hx] at h
      cases hxs : eachRow row xs with
      | ok zs => simp [hxs, Except.bind, Except.map] at h
      | error later =>
        obtain rfl : later = failure := by simpa [hxs, Except.bind, Except.map] using h
        obtain ⟨i, x', hi, hx', hbefore⟩ := ih hxs
        refine ⟨i + 1, x', by simpa using hi, hx', fun j hj x'' hj' => ?_⟩
        cases j with
        | zero =>
          obtain rfl : x = x'' := by simpa using hj'
          exact ⟨y, hx⟩
        | succ j => exact hbefore j (by omega) x'' (by simpa using hj')

/-- What comes after a row that fails is of no consequence. -/
theorem eachRow_append_of_error {failure : Failure} (h : eachRow row xs = .error failure)
    (rest : List α) : eachRow row (xs ++ rest) = .error failure := by
  rw [eachRow] at h ⊢
  rw [List.mapM_append, h]
  rfl

theorem isCompute_of_eachRow (hrow : OnlyFaults row) {failure : Failure}
    (h : eachRow row xs = .error failure) : failure.IsCompute := by
  obtain ⟨_, x, -, hx, -⟩ := exists_first_failure h
  exact hrow x failure hx

theorem exists_eachRow_ok_iff : (∃ ys, eachRow row xs = .ok ys) ↔ ∀ x ∈ xs, ∃ y, row x = .ok y := by
  constructor
  · rintro ⟨ys, h⟩ x hx
    have hmem : row x ∈ ys.map .ok := eachRow_eq_ok_iff.1 h ▸ List.mem_map_of_mem hx
    obtain ⟨y, -, hy⟩ := List.mem_map.1 hmem
    exact ⟨y, hy.symm⟩
  · intro h
    cases hrun : eachRow row xs with
    | ok ys => exact ⟨ys, rfl⟩
    | error failure =>
      obtain ⟨i, x, hi, hx, -⟩ := exists_first_failure hrun
      obtain ⟨y, hy⟩ := h x (List.mem_of_getElem? hi)
      simp [hx] at hy

/-- A row of the result is what the function gives for that row. -/
theorem getElem?_of_eachRow (h : eachRow row xs = .ok ys) (i : Nat) :
    xs[i]?.map row = ys[i]?.map .ok := by
  simpa using congrArg (·[i]?) (eachRow_eq_ok_iff.1 h)

theorem eachRow_singleton (row : α → Except Failure β) (x : α) :
    eachRow row [x] = (row x).map ([·]) := by
  rw [eachRow_cons]
  cases row x <;> rfl

/-- A function that does not fail is mapped over the rows. -/
theorem eachRow_ok (f : α → β) (xs : List α) :
    eachRow (fun x => .ok (f x)) xs = .ok (xs.map f) := by
  rw [eachRow_eq_ok_iff, List.map_map]
  rfl

/-- Mapping the results maps what each row gives. -/
theorem map_eachRow (f : β → γ) (row : α → Except Failure β) (xs : List α) :
    (eachRow row xs).map (List.map f) = eachRow (fun x => (row x).map f) xs := by
  induction xs with
  | nil => rfl
  | cons x xs ih =>
    rw [eachRow_cons, eachRow_cons, ← ih]
    cases row x with
    | error failure => rfl
    | ok y => cases eachRow row xs <;> rfl

theorem eachPair_ok (f : α → β → γ) (xs : List α) (ys : List β) :
    eachPair (fun x y => .ok (f x y)) xs ys = .ok (xs.zipWith f ys) := by
  simp only [eachPair, eachRow_ok, List.map_zip_eq_zipWith]
  rfl

theorem eachRow_onPresent_ok (f : α → β) (xs : List (Option α)) :
    eachRow (onPresent fun a => .ok (f a)) xs = .ok (xs.map (·.map f)) := by
  rw [← eachRow_ok]
  congr 1
  funext x
  cases x <;> rfl

theorem eachRow_onPresent_self (xs : List (Option α)) :
    eachRow (onPresent (.ok : α → Except Failure α)) xs = .ok xs := by
  refine (eachRow_onPresent_ok id xs).trans ?_
  rw [Option.map_id_fun, List.map_id]

theorem exists_eachRow_onPresent {f : α → Except Failure β} {xs : List (Option α)}
    (h : ∀ a, some a ∈ xs → ∃ b, f a = .ok b) :
    ∃ ys, eachRow (onPresent f) xs = .ok ys := by
  rw [exists_eachRow_ok_iff]
  intro x hx
  cases x with
  | none => exact ⟨none, rfl⟩
  | some a =>
    obtain ⟨b, hb⟩ := h a hx
    exact ⟨some b, congrArg (Except.map some) hb⟩

/-- A run over results is a run over what they come from, if it is for each value. -/
theorem eachRow_onPresent_congr {f : α → Except Failure β} {xs : List (Option α)}
    {ys : List (Option β)} (hys : eachRow (onPresent f) xs = .ok ys)
    {g : β → Except Failure γ} {k : α → Except Failure γ}
    (h : ∀ a, some a ∈ xs → ∀ b, f a = .ok b → g b = k a) :
    eachRow (onPresent g) ys = eachRow (onPresent k) xs := by
  rw [eachRow_eq_ok_iff] at hys
  induction xs generalizing ys with
  | nil =>
    obtain rfl : ys = [] := by simpa using hys.symm
    rfl
  | cons x xs ih =>
    cases ys with
    | nil => cases hys
    | cons y ys =>
      obtain ⟨hy, hrest⟩ := List.cons.inj hys
      have hrow : onPresent g y = onPresent k x := by
        cases x with
        | none =>
          obtain rfl : none = y := Except.ok.inj hy
          rfl
        | some a =>
          obtain ⟨b, hb, rfl⟩ := except_map_eq_ok_iff.1 hy
          exact congrArg (Except.map some) (h a List.mem_cons_self b hb)
      rw [eachRow_cons, eachRow_cons, hrow,
        ih hrest fun a ha => h a (List.mem_cons_of_mem x ha)]

theorem map_ofSameLength (xs : List α) (ys : List β) (mismatch : Failure)
    (result : Except Failure γ) {δ : Type} (f : γ → δ) :
    (ofSameLength xs ys mismatch result).map f = ofSameLength xs ys mismatch (result.map f) := by
  unfold ofSameLength
  split <;> rfl

/-! ### Rows of two values -/

/-- The rows of two columns of one length; a row with a null is null. -/
def pairs (xs : List (Option α)) (ys : List (Option β)) : List (Option (α × β)) :=
  xs.zipWith (fun x y => x.bind fun a => y.map (a, ·)) ys

theorem length_pairs {xs : List (Option α)} {ys : List (Option β)} (h : xs.length = ys.length) :
    (pairs xs ys).length = xs.length := by
  rw [pairs, List.length_zipWith, ← h, Nat.min_self]

theorem getElem?_pairs_eq_some_iff {xs : List (Option α)} {ys : List (Option β)} {i : Nat} {a : α}
    {b : β} :
    (pairs xs ys)[i]? = some (some (a, b)) ↔ xs[i]? = some (some a) ∧ ys[i]? = some (some b) := by
  rw [pairs, List.getElem?_zipWith]
  rcases xs[i]? with _ | _ | x <;> rcases ys[i]? with _ | _ | y <;> simp

theorem getElem?_pairs_eq_none_iff {xs : List (Option α)} {ys : List (Option β)}
    (h : xs.length = ys.length) {i : Nat} :
    (pairs xs ys)[i]? = some none ↔ xs[i]? = some none ∨ ys[i]? = some none := by
  rw [pairs, List.getElem?_zipWith]
  by_cases hi : i < xs.length
  · rw [List.getElem?_eq_getElem hi, List.getElem?_eq_getElem (h ▸ hi)]
    rcases xs[i] with _ | x <;> rcases ys[i] with _ | y <;> simp
  · simp [List.getElem?_eq_none (Nat.le_of_not_lt hi),
      List.getElem?_eq_none (h ▸ Nat.le_of_not_lt hi)]

theorem pairs_swap (xs : List (Option α)) (ys : List (Option β)) :
    pairs ys xs = (pairs xs ys).map (·.map Prod.swap) := by
  rw [pairs, pairs, List.map_zipWith, List.zipWith_comm]
  congr 1
  funext x y
  cases x <;> cases y <;> rfl

/-- A function of two values runs down two columns as it runs down their rows. -/
theorem eachPair_onBothPresent (f : α → β → Except Failure γ) (xs : List (Option α))
    (ys : List (Option β)) :
    eachPair (onBothPresent f) xs ys = eachRow (onPresent fun r => f r.1 r.2) (pairs xs ys) := by
  have hpairs : pairs xs ys = (xs.zip ys).map fun p => p.1.bind fun a => p.2.map (a, ·) := by
    rw [List.map_zip_eq_zipWith]
    rfl
  rw [eachPair, hpairs, eachRow, eachRow, List.mapM_map]
  congr 1
  funext ⟨x, y⟩
  cases x <;> cases y <;> rfl

/-- Mapping what a row of two values gives. -/
theorem map_onBothPresent {δ : Type} (f : α → β → Except Failure γ) (g : γ → δ) (x : Option α)
    (y : Option β) :
    (onBothPresent f x y).map (Option.map g) = onBothPresent (fun a b => (f a b).map g) x y := by
  match x, y with
  | some a, some b =>
    simp only [onBothPresent]
    cases f a b <;> rfl
  | some _, none | none, _ => rfl

/-! ### Slices of one row -/

theorem take_one_drop {i : Nat} {x : α} (h : xs[i]? = some x) : (xs.drop i).take 1 = [x] := by
  obtain ⟨hi, rfl⟩ := List.getElem?_eq_some_iff.1 h
  rw [List.drop_eq_getElem_cons hi]
  rfl

/-! ### Columns as rows -/

/-- The rows of some columns of length `n`. -/
def rowsOf (n : Nat) : List (List α) → List (List α)
  | [] => List.replicate n []
  | column :: rest => column.zipWith List.cons (rowsOf n rest)

theorem length_rowsOf {n : Nat} {columns : List (List α)} (h : ∀ c ∈ columns, c.length = n) :
    (rowsOf n columns).length = n := by
  induction columns with
  | nil => simp [rowsOf]
  | cons column rest ih =>
    simp only [rowsOf, List.length_zipWith, h column List.mem_cons_self,
      ih fun c hc => h c (List.mem_cons_of_mem _ hc), Nat.min_self]

/-- Row `i` holds the cell that each column has there. -/
theorem exists_getElem?_rowsOf {n i : Nat} {columns : List (List α)}
    (h : ∀ c ∈ columns, c.length = n) (hi : i < n) :
    ∃ row, (rowsOf n columns)[i]? = some row ∧ columns.map (·[i]?) = row.map some := by
  induction columns with
  | nil => exact ⟨[], by simp [rowsOf, hi], rfl⟩
  | cons column rest ih =>
    obtain ⟨row, hrow, hcells⟩ := ih fun c hc => h c (List.mem_cons_of_mem _ hc)
    have hi : i < column.length := (h column List.mem_cons_self).symm ▸ hi
    have hcell : column[i]? = some column[i] := List.getElem?_eq_getElem hi
    refine ⟨column[i] :: row, ?_, ?_⟩
    · rw [rowsOf, List.getElem?_zipWith, hcell, hrow]
    · rw [List.map_cons, List.map_cons, hcell, hcells]

theorem exists_singletons {columns : List (List α)} (h : ∀ c ∈ columns, c.length = 1) :
    ∃ cells : List α, columns = cells.map ([·]) := by
  induction columns with
  | nil => exact ⟨[], rfl⟩
  | cons column rest ih =>
    simp only [List.forall_mem_cons] at h
    obtain ⟨cell, rfl⟩ := List.length_eq_one_iff.1 h.1
    obtain ⟨cells, rfl⟩ := ih h.2
    exact ⟨cell :: cells, rfl⟩

theorem rowsOf_singletons (cells : List α) : rowsOf 1 (cells.map ([·])) = [cells] := by
  induction cells with
  | nil => rfl
  | cons cell rest ih =>
    rw [List.map_cons, rowsOf, ih, List.zipWith_cons_cons, List.zipWith_nil_left]

/-- The rows of slices are the slice of the rows. -/
theorem rowsOf_slice {n offset length : Nat} (hn : offset + length ≤ n) (columns : List (List α)) :
    rowsOf length (columns.map fun c => (c.drop offset).take length) =
      ((rowsOf n columns).drop offset).take length := by
  induction columns with
  | nil =>
    simp only [rowsOf, List.map_nil, List.drop_replicate, List.take_replicate]
    congr 1
    omega
  | cons column rest ih =>
    simp only [rowsOf, List.map_cons, ih, List.drop_zipWith, List.take_zipWith]

/-- The cells of a row combined, from the left on. -/
def combineRow (combine : Option α → Option α → Option α) : List (Option α) → Option α
  | [] => none
  | cell :: rest => rest.foldl combine cell

theorem foldl_zipWith_eq (combine : Option α → Option α → Option α) {n : Nat}
    {first : List (Option α)} {rest : List (List (Option α))} (hfirst : first.length = n)
    (hrest : ∀ c ∈ rest, c.length = n) :
    rest.foldl (List.zipWith combine) first =
      first.zipWith (fun cell row => row.foldl combine cell) (rowsOf n rest) := by
  induction rest generalizing first with
  | nil =>
    apply List.ext_getElem?
    intro i
    by_cases hi : i < n <;> simp [rowsOf, hfirst, hi]
  | cons column rest ih =>
    have hcolumn : column.length = n := hrest column List.mem_cons_self
    have hcombined : (first.zipWith combine column).length = n := by simp [hfirst, hcolumn]
    rw [List.foldl_cons, ih hcombined fun c hc => hrest c (List.mem_cons_of_mem _ hc)]
    apply List.ext_getElem?
    intro i
    simp only [rowsOf, List.getElem?_zipWith]
    cases first[i]? <;> cases column[i]? <;> cases (rowsOf n rest)[i]? <;> rfl

/-- Combining columns one after the other combines the cells of each row. -/
theorem foldl_zipWith (combine : Option α → Option α → Option α) {n : Nat}
    {first : List (Option α)} {rest : List (List (Option α))} (hfirst : first.length = n)
    (hrest : ∀ c ∈ rest, c.length = n) :
    rest.foldl (List.zipWith combine) first =
      (rowsOf n (first :: rest)).map (combineRow combine) := by
  rw [foldl_zipWith_eq combine hfirst hrest, rowsOf, List.map_zipWith]
  rfl

end Kernel

end ColumnDispatch
