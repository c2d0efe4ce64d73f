import ColumnDispatch.Proofs.Kernels.Comparisons

/-! Calls on slices of their operands. A built-in overload computes the rows of its result on their
own, so a call on slices gives the slice of the result, and a call that fails does so for its first
row to fail. A row with a null does not fail. This is so for canonical operands; timestamps that
still have a time zone can fail without any row. -/

namespace ColumnDispatch

open Kernel

/-! ### Slices -/

namespace Call

/-- Whether every operand that is read has `n` rows. -/
def HasRows (c : Call) (n : Nat) : Prop := ∀ b ∈ c.read, b.length = n

/-- The call on the rows from `offset` on, `length` of them. The second operand of a cast may become
any batch of its type. -/
inductive Slice (offset length : Nat) : Call → Call → Prop
  | unary {op : UnaryOperator} {b part : Batch} (hb : b.slice? offset length = some part) :
      Slice offset length (.unary op b) (.unary op part)
  | binary {op : BinaryOperator} {left right left' right' : Batch} (hop : op ≠ .cast)
      (hleft : left.slice? offset length = some left')
      (hright : right.slice? offset length = some right') :
      Slice offset length (.binary op left right) (.binary op left' right')
  | cast {left right left' right' : Batch} (hleft : left.slice? offset length = some left')
      (hright : right'.type = right.type) :
      Slice offset length (.binary .cast left right) (.binary .cast left' right')
  | variadic {op : VariadicOperator} {operands parts : List Batch}
      (hparts : operands.map (·.slice? offset length) = parts.map some) :
      Slice offset length (.variadic op operands) (.variadic op parts)

variable {c c' : Call} {n offset length : Nat}

theorem exists_slice (hrows : c.HasRows n) (h : offset + length ≤ n) :
    ∃ c', c.Slice offset length c' := by
  have hslice (b : Batch) (hb : b ∈ c.read) : ∃ part, b.slice? offset length = some part :=
    ⟨_, Batch.slice?_eq_some_iff.2 ⟨hrows b hb ▸ h, rfl⟩⟩
  cases c with
  | unary op b =>
    obtain ⟨part, hb⟩ := hslice b List.mem_cons_self
    exact ⟨_, .unary hb⟩
  | binary op left right =>
    by_cases hop : op = .cast
    · subst hop
      obtain ⟨left', hleft⟩ := hslice left List.mem_cons_self
      exact ⟨_, .cast hleft (rfl : right.type = right.type)⟩
    · rw [read_binary hop] at hslice
      obtain ⟨left', hleft⟩ := hslice left (by simp)
      obtain ⟨right', hright⟩ := hslice right (by simp)
      exact ⟨_, .binary hop hleft hright⟩
  | variadic op operands =>
    have hparts (bs : List Batch) (hbs : ∀ b ∈ bs, b ∈ operands) :
        ∃ parts : List Batch, bs.map (·.slice? offset length) = parts.map some := by
      induction bs with
      | nil => exact ⟨[], rfl⟩
      | cons b bs ih =>
        simp only [List.forall_mem_cons] at hbs
        obtain ⟨part, hb⟩ := hslice b hbs.1
        obtain ⟨parts, hparts⟩ := ih hbs.2
        exact ⟨part :: parts, by rw [List.map_cons, hb, hparts, List.map_cons]⟩
    obtain ⟨parts, hparts⟩ := hparts operands fun _ => id
    exact ⟨_, .variadic hparts⟩

theorem query?_variadic_congr (op : VariadicOperator) {bs bs' : List Batch}
    (h : bs'.map (·.type) = bs.map (·.type)) :
    (variadic op bs').query? = (variadic op bs).query? := by
  match bs, bs', h with
  | [], [], _ => rfl
  | b :: bs, b' :: bs', h =>
    simp only [List.map_cons, List.cons.injEq] at h
    have hall : bs'.all (·.type = b.type) = bs.all (·.type = b.type) := by
      simpa [List.all_map, Function.comp_def] using congrArg (·.all (· = b.type)) h.2
    have hlength : bs'.length = bs.length := by simpa using congrArg List.length h.2
    simp only [query?, hall, hlength, h.1]

theorem slice_self (hrows : c.HasRows n) : c.Slice 0 n c := by
  have hslice (b : Batch) (hb : b.length = n) : b.slice? 0 n = some b := by
    have hlength : b.column.cells.length = n := hb
    refine Batch.slice?_eq_some_iff.2 ⟨by omega, ?_⟩
    rw [List.drop_zero, List.take_of_length_le (Nat.le_of_eq hlength)]
  cases c with
  | unary op b => exact .unary (hslice b (hrows b List.mem_cons_self))
  | binary op left right =>
    by_cases hop : op = .cast
    · subst hop
      exact .cast (hslice left (hrows left List.mem_cons_self)) rfl
    · rw [HasRows, read_binary hop] at hrows
      exact .binary hop (hslice left (hrows left (by simp))) (hslice right (hrows right (by simp)))
  | variadic op operands =>
    exact .variadic (List.map_congr_left fun b hb => hslice b (hrows b hb))

namespace Slice

variable (h : c.Slice offset length c')

include h

/-- What a slice reads are slices of what the call reads. -/
theorem exists_of_mem_read {part : Batch} (hpart : part ∈ c'.read) :
    ∃ b ∈ c.read, b.slice? offset length = some part := by
  cases h with
  | unary hb => exact ⟨_, List.mem_cons_self, List.mem_singleton.1 hpart ▸ hb⟩
  | binary hop hleft hright =>
    rw [read_binary hop] at hpart ⊢
    rcases List.mem_cons.1 hpart with rfl | hpart
    · exact ⟨_, List.mem_cons_self, hleft⟩
    · exact ⟨_, by simp, List.mem_singleton.1 hpart ▸ hright⟩
  | cast hleft hright => exact ⟨_, List.mem_cons_self, List.mem_singleton.1 hpart ▸ hleft⟩
  | variadic hparts => exact List.mem_map.1 (hparts ▸ List.mem_map_of_mem hpart)

theorem isCanonical (hc : ∀ b ∈ c.read, b.IsCanonical) : ∀ part ∈ c'.read, part.IsCanonical := by
  intro part hpart
  obtain ⟨b, hb, hslice⟩ := h.exists_of_mem_read hpart
  obtain ⟨-, rfl⟩ := Batch.slice?_eq_some_iff.1 hslice
  exact hc b hb

theorem hasRows : c'.HasRows length := by
  intro part hpart
  obtain ⟨b, -, hslice⟩ := h.exists_of_mem_read hpart
  obtain ⟨hle, rfl⟩ := Batch.slice?_eq_some_iff.1 hslice
  have hlength : offset + length ≤ b.column.cells.length := hle
  simp only [Batch.length, Column.length, List.length_take, List.length_drop]
  omega

theorem operator_eq : c'.operator = c.operator := by
  cases h <;> rfl

/-- A slice asks for the overload that the call asks for. -/
theorem query?_eq : c'.query? = c.query? := by
  have htype {b part : Batch} (hb : b.slice? offset length = some part) : part.type = b.type := by
    obtain ⟨-, rfl⟩ := Batch.slice?_eq_some_iff.1 hb
    rfl
  cases h with
  | unary hb => simp only [query?, htype hb]
  | binary hop hleft hright => simp only [query?, htype hleft, htype hright]
  | cast hleft hright => simp only [query?, htype hleft, hright]
  | @variadic op operands parts hparts =>
    refine query?_variadic_congr op (List.ext_getElem? fun i => ?_)
    have hi := congrArg (·[i]?) hparts
    simp only [List.getElem?_map] at hi ⊢
    cases hb : operands[i]? with
    | none =>
      cases hpart : parts[i]? with
      | none => rfl
      | some part => simp [hb, hpart] at hi
    | some b =>
      cases hpart : parts[i]? with
      | none => simp [hb, hpart] at hi
      | some part =>
        simp only [hb, hpart, Option.map_some, Option.some.injEq] at hi
        simp [htype hi]

end Slice

end Call

/-! ### Rows -/

theorem eq_singleton_none {α : Type} {cells : List (Option α)} (hlength : cells.length = 1)
    (hnull : cells.countP Option.isNone = 1) : cells = [none] := by
  obtain ⟨cell, rfl⟩ := List.length_eq_one_iff.1 hlength
  cases cell with
  | none => rfl
  | some a => cases hnull

theorem Batch.eq_of_slices {t : LogicalType} {columns : List (List (Option t.storage.Cell))}
    {parts : List Batch} {offset length : Nat}
    (h : (columns.map (Batch.ofCells t)).map (·.slice? offset length) = parts.map some) :
    parts = (columns.map fun cells => (cells.drop offset).take length).map (.ofCells t) := by
  induction columns generalizing parts with
  | nil => exact List.map_eq_nil_iff.1 h.symm
  | cons column columns ih =>
    cases parts with
    | nil => cases h
    | cons part parts =>
      simp only [List.map_cons, List.cons.injEq] at h
      obtain ⟨-, rfl⟩ := Batch.slice?_eq_some_iff.1 h.1
      rw [ih h.2]
      rfl

namespace Registration.Takes

variable {o : Registration} {c : Call} {n : Nat}

/-- What an overload makes of slices of a call is run down the rows of the slice. -/
theorem exists_rows (h : o.Takes c) (hrows : c.HasRows n) :
    ∃ (Row : Type) (rows : List Row)
      (row : Row → Except Failure (Option o.returns.storage.Cell)), rows.length = n ∧
        ∀ offset length c', offset + length ≤ n → c.Slice offset length c' →
          o.kernelOutcome? c' = some ((eachRow row ((rows.drop offset).take length)).map
            (.ofCells o.returns)) := by
  cases h with
  | unary form cells =>
    refine ⟨_, cells, onPresent form.value, hrows _ List.mem_cons_self, ?_⟩
    intro offset length c' _ hslice
    cases hslice with
    | unary hb =>
      obtain ⟨-, rfl⟩ := Batch.slice?_eq_some_iff.1 hb
      exact congrArg some (form.kernel_ofCells _)
  | binary hop form hstrict xs ys =>
    rw [Call.HasRows, Call.read_binary hop] at hrows
    have hxs : xs.length = n := hrows (.ofCells _ xs) (by simp)
    have hys : ys.length = n := hrows (.ofCells _ ys) (by simp)
    refine ⟨_, xs.zip ys, fun pair => form.row pair.1 pair.2, by simp [hxs, hys], ?_⟩
    intro offset length c' _ hslice
    cases hslice with
    | cast => exact absurd rfl hop
    | binary _ hleft hright =>
      obtain ⟨-, rfl⟩ := Batch.slice?_eq_some_iff.1 hleft
      obtain ⟨-, rfl⟩ := Batch.slice?_eq_some_iff.1 hright
      have hlength : ((xs.drop offset).take length).length =
          ((ys.drop offset).take length).length := by simp [hxs, hys]
      refine congrArg some ((form.kernel_of_length_eq hlength).trans ?_)
      simp only [eachPair, List.zip_eq_zipWith, List.drop_zipWith, List.take_zipWith]
      rfl
  | cast form cells right =>
    refine ⟨_, cells, onPresent form.value, hrows _ List.mem_cons_self, ?_⟩
    intro offset length c' _ hslice
    cases hslice with
    | binary hop => exact absurd rfl hop
    | cast hleft hright =>
      obtain ⟨-, rfl⟩ := Batch.slice?_eq_some_iff.1 hleft
      exact congrArg some (form.kernel_ofCells _)
  | variadic form hstrict first rest =>
    have hcolumns : ∀ column ∈ first :: rest, column.length = n := fun column hcolumn =>
      hrows (.ofCells _ column) (List.mem_map_of_mem hcolumn)
    refine ⟨_, rowsOf n (first :: rest), fun cells => .ok (form.row cells),
      length_rowsOf hcolumns, ?_⟩
    intro offset length c' hn hslice
    cases hslice with
    | variadic hparts =>
      obtain rfl := Batch.eq_of_slices hparts
      have hparts : ∀ column ∈ (first :: rest).map fun c => (c.drop offset).take length,
          column.length = length := by
        intro column hcolumn
        obtain ⟨whole, hwhole, rfl⟩ := List.mem_map.1 hcolumn
        have hlength := hcolumns whole hwhole
        simp only [List.length_take, List.length_drop]
        omega
      refine congrArg some ((form.kernel_ofColumns length _ _ hparts).trans ?_)
      rw [← rowsOf_slice hn]
      exact (congrArg (Except.map _) (eachRow_ok form.row _)).symm

/-- A row with a null does not fail, and only an operator that is not strict can make something of
it. -/
theorem exists_ok_of_null (h : o.Takes c) (hrows : c.HasRows 1)
    (hnull : ∃ b ∈ c.read, b.nullCount = 1) :
    ∃ cell, o.kernelOutcome? c = some (.ok (.ofCells o.returns [cell])) ∧
      (c.operator.isStrict → cell = none) := by
  obtain ⟨b, hb, hnull⟩ := hnull
  cases h with
  | unary form cells | cast form cells right =>
    obtain rfl := List.mem_singleton.1 hb
    have hcells : cells = [none] := eq_singleton_none (hrows _ hb) hnull
    subst hcells
    exact ⟨none, congrArg some form.kernel_null, fun _ => rfl⟩
  | @binary op t u kernel hop form hstrict xs ys =>
    rw [Call.HasRows, Call.read_binary hop] at hrows
    rw [Call.read_binary hop] at hb
    have hxs : xs.length = 1 := hrows (.ofCells t xs) (by simp)
    have hys : ys.length = 1 := hrows (.ofCells t ys) (by simp)
    obtain ⟨x, rfl⟩ := List.length_eq_one_iff.1 hxs
    obtain ⟨y, rfl⟩ := List.length_eq_one_iff.1 hys
    have hxy : x = none ∨ y = none := by
      rcases List.mem_cons.1 hb with rfl | hb
      · exact .inl (List.singleton_inj.1 (eq_singleton_none rfl hnull))
      · obtain rfl := List.mem_singleton.1 hb
        exact .inr (List.singleton_inj.1 (eq_singleton_none rfl hnull))
    obtain ⟨z, hz, hnone⟩ := form.exists_ok_of_null hxy
    exact ⟨z, congrArg some hz, fun h => hnone (hstrict h)⟩
  | @variadic op t min kernel form hstrict first rest =>
    have hcolumns : ∀ column ∈ first :: rest, column.length = 1 := fun column hcolumn =>
      hrows (.ofCells t column) (List.mem_map_of_mem hcolumn)
    obtain ⟨cells, hcells⟩ := exists_singletons hcolumns
    match cells, hcells with
    | cell :: cells, hcells =>
      simp only [List.map_cons, List.cons.injEq] at hcells
      obtain ⟨rfl, rfl⟩ := hcells
      refine ⟨_, congrArg some (form.kernel_singletons cell cells), fun h => ?_⟩
      obtain ⟨column, hcolumn, rfl⟩ := List.mem_map.1 hb
      have hnone : column = [none] := eq_singleton_none (hcolumns column hcolumn) hnull
      subst hnone
      exact hstrict h _ (by simpa using hcolumn)

end Registration.Takes

/-! ### Invocation -/

namespace Registry

variable {c : Call} {o : Registration} {n : Nat}

/-- Calls on slices are runs over slices of the rows. -/
theorem exists_run (hc : ∀ b ∈ c.read, b.IsCanonical) (hselects : builtin.Selects c o)
    (hrows : c.HasRows n) :
    ∃ (Row : Type) (rows : List Row)
      (row : Row → Except Failure (Option o.returns.storage.Cell)), rows.length = n ∧
        ∀ offset length c', offset + length ≤ n → c.Slice offset length c' →
          (builtin.invoke c').result = (eachRow row ((rows.drop offset).take length)).map
            (.ofCells o.returns) := by
  have htakes := takes_of_selects holds_builtin hc hselects
  obtain ⟨Row, rows, row, hlength, hrun⟩ := htakes.exists_rows hrows
  refine ⟨Row, rows, row, hlength, fun offset length c' h hslice => ?_⟩
  have hselects' : builtin.Selects c' o := by simpa only [Selects, hslice.query?_eq] using hselects
  obtain ⟨outcome, _, houtcome, -, -, hinvoke⟩ :=
    exists_invoke_eq holds_builtin (hslice.isCanonical hc) hselects'
  rw [hinvoke]
  exact Option.some.inj (houtcome.symm.trans (hrun offset length c' h hslice))

/-- A call that succeeds does so on every slice, with the slice of the result. -/
theorem slice_of_invoke_ok (hc : ∀ b ∈ c.read, b.IsCanonical) (hselects : builtin.Selects c o)
    (hrows : c.HasRows n) {r : Batch} (hr : (builtin.invoke c).result = .ok r) :
    r.length = n ∧ ∀ offset length c', offset + length ≤ n → c.Slice offset length c' →
      ∃ part, r.slice? offset length = some part ∧ (builtin.invoke c').result = .ok part := by
  obtain ⟨Row, rows, row, hlength, hrun⟩ := exists_run hc hselects hrows
  have hwhole := hrun 0 n c (by omega) (Call.slice_self hrows)
  rw [List.drop_zero, List.take_of_length_le (Nat.le_of_eq hlength), hr] at hwhole
  obtain ⟨cells, hcells, rfl⟩ := except_map_eq_ok_iff.1 hwhole.symm
  have hn : cells.length = n := (length_of_eachRow hcells).trans hlength
  refine ⟨hn, fun offset length c' h hslice => ?_⟩
  refine ⟨_, Batch.slice?_eq_some_iff.2 ⟨Nat.le_trans h (Nat.le_of_eq hn.symm), rfl⟩, ?_⟩
  rw [hrun offset length c' h hslice, eachRow_slice hcells]
  rfl

/-- A call that fails does so for the first row to fail. -/
theorem first_row_of_invoke_error (hc : ∀ b ∈ c.read, b.IsCanonical)
    (hselects : builtin.Selects c o) (hrows : c.HasRows n) {failure : Failure}
    (hfailure : (builtin.invoke c).result = .error failure) :
    ∃ i < n, (∀ c', c.Slice i 1 c' → (builtin.invoke c').result = .error failure) ∧
      ∀ j < i, ∀ c', c.Slice j 1 c' → ∃ v, (builtin.invoke c').result = .ok v := by
  obtain ⟨Row, rows, row, hlength, hrun⟩ := exists_run hc hselects hrows
  have hwhole := hrun 0 n c (by omega) (Call.slice_self hrows)
  rw [List.drop_zero, List.take_of_length_le (Nat.le_of_eq hlength), hfailure] at hwhole
  obtain ⟨i, x, hi, hx, hbefore⟩ := exists_first_failure (except_map_eq_error_iff.1 hwhole.symm)
  obtain ⟨hin, -⟩ := List.getElem?_eq_some_iff.1 hi
  refine ⟨i, hlength ▸ hin, fun c' hslice => ?_, fun j hj c' hslice => ?_⟩
  · rw [hrun i 1 c' (by omega) hslice, take_one_drop hi, eachRow_singleton, hx]
    rfl
  · have hjn : j < rows.length := by omega
    obtain ⟨y, hy⟩ := hbefore j hj rows[j] (List.getElem?_eq_getElem hjn)
    rw [hrun j 1 c' (by omega) hslice, take_one_drop (List.getElem?_eq_getElem hjn),
      eachRow_singleton, hy]
    exact ⟨_, rfl⟩

/-- A call on one row that reads a null does not fail. -/
theorem invoke_of_null (hc : ∀ b ∈ c.read, b.IsCanonical) (hselects : builtin.Selects c o)
    (hrows : c.HasRows 1) (hnull : ∃ b ∈ c.read, b.nullCount = 1) :
    ∃ v, (builtin.invoke c).result = .ok v ∧ (c.operator.isStrict → v = .nulls o.returns 1) := by
  have htakes := takes_of_selects holds_builtin hc hselects
  obtain ⟨cell, houtcome, hstrict⟩ := htakes.exists_ok_of_null hrows hnull
  obtain ⟨outcome, _, houtcome', -, -, hinvoke⟩ := exists_invoke_eq holds_builtin hc hselects
  obtain rfl := Option.some.inj (houtcome'.symm.trans houtcome)
  refine ⟨_, by rw [hinvoke], fun h => ?_⟩
  rw [hstrict h]
  rfl

/-- Calls to the built-in overloads on canonical operands are run row by row. Where a call succeeds,
a row of the result is computed from that row of the operands; where it fails, it fails as its first
row to fail. -/
theorem builtin_rowwise {q : Query} (ho : o ∈ Builtin.all) (hq : c.query? = some q)
    (hfits : o.fits q) (hc : ∀ b ∈ c.read, b.IsCanonical) (hrows : c.HasRows n) :
    (∀ offset length, offset + length ≤ n → ∃ c', c.Slice offset length c') ∧
    (∀ r, (builtin.invoke c).result = .ok r → r.length = n ∧
      ∀ offset length c', offset + length ≤ n → c.Slice offset length c' →
        ∃ part, r.slice? offset length = some part ∧ (builtin.invoke c').result = .ok part) ∧
    (∀ failure, (builtin.invoke c).result = .error failure →
      ∃ i < n, (∀ c', c.Slice i 1 c' → (builtin.invoke c').result = .error failure) ∧
        ∀ j < i, ∀ c', c.Slice j 1 c' → ∃ v, (builtin.invoke c').result = .ok v) ∧
    (∀ d m, (∀ b ∈ d.read, b.IsCanonical) → d.HasRows m → ∀ r s,
      (builtin.invoke c).result = .ok r → (builtin.invoke d).result = .ok s →
      ∀ i < n, ∀ j < m, ∀ e, c.Slice i 1 e → d.Slice j 1 e → r.slice? i 1 = s.slice? j 1) ∧
    ∀ i < n, ∀ e, c.Slice i 1 e → (∃ b ∈ e.read, b.nullCount = 1) →
      ∃ v, (builtin.invoke e).result = .ok v ∧
        (c.operator.isStrict → v = .nulls o.returns 1) := by
  have hselects : builtin.Selects c o := (selects_iff holds_builtin).2 ⟨ho, q, hq, hfits⟩
  refine ⟨fun offset length => Call.exists_slice hrows,
    fun r => slice_of_invoke_ok hc hselects hrows,
    fun failure => first_row_of_invoke_error hc hselects hrows, ?_, ?_⟩
  · intro d m hd hm r s hr hs i hi j hj e hce hde
    have hselects' : builtin.Selects d o := by
      simpa only [Selects, ← hce.query?_eq, hde.query?_eq] using hselects
    obtain ⟨-, hrslice⟩ := slice_of_invoke_ok hc hselects hrows hr
    obtain ⟨-, hsslice⟩ := slice_of_invoke_ok hd hselects' hm hs
    obtain ⟨part, hpart, hpart'⟩ := hrslice i 1 e (by omega) hce
    obtain ⟨part', hsame, hsame'⟩ := hsslice j 1 e (by omega) hde
    obtain rfl := Except.ok.inj (hpart'.symm.trans hsame')
    rw [hpart, hsame]
  · intro i hi e hslice hnull
    have hselects' : builtin.Selects e o := by
      simpa only [Selects, hslice.query?_eq] using hselects
    rw [← hslice.operator_eq]
    exact invoke_of_null (hslice.isCanonical hc) hselects' hslice.hasRows hnull

/-- A division that fails in its last row, and not in the row before, where a null is divided by
zero too. -/
theorem builtin_rowwise_of_zero_divisor :
    let left : Batch := .ofCells .int64 [some (6 : Int64), none, some (1 : Int64)]
    let right : Batch := .ofCells .int64 [some (3 : Int64), some (0 : Int64), some (0 : Int64)]
    let c : Call := .binary .divide left right
    (∀ b ∈ c.read, b.IsCanonical) ∧ c.HasRows 3 ∧
      (builtin.invoke c).result = .error (.compute .divideByZero) ∧
      ∃ i < 3, (∀ c', c.Slice i 1 c' →
          (builtin.invoke c').result = .error (.compute .divideByZero)) ∧
        ∀ j < i, ∀ c', c.Slice j 1 c' → ∃ v, (builtin.invoke c').result = .ok v := by
  intro left right c
  have hc : ∀ b ∈ c.read, b.IsCanonical := by
    simp [c, left, right, Call.read, Call.operands, Batch.IsCanonical, Batch.ofCells]
  have hrows : c.HasRows 3 := by
    simp [Call.HasRows, c, left, right, Call.read, Call.operands, Batch.length, Column.length,
      Batch.ofCells]
  have ho : Builtin.binary .divide .int64 .int64 .int64 Arithmetic.divide.kernel ∈ Builtin.all := by
    simp [Builtin.all, Builtin.arithmetic, Builtin.numericTypes, Arithmetic.all,
      Arithmetic.operator]
  obtain ⟨-, -, hfailure, -⟩ := builtin_rowwise ho rfl rfl hc hrows
  have hselects : builtin.Selects c _ := (selects_iff holds_builtin).2 ⟨ho, _, rfl, rfl⟩
  have hinvoke : (builtin.invoke c).result = .error (.compute .divideByZero) := by
    obtain ⟨outcome, _, houtcome, -, -, hinvoke⟩ := exists_invoke_eq holds_builtin hc hselects
    obtain rfl := Option.some.inj houtcome
    rw [hinvoke]
    rfl
  exact ⟨hc, hrows, hinvoke, hfailure _ hinvoke⟩

/-- Timestamps with a time zone and without one, neither of which has a row: the overload fits, and
fails though there is no row to fail. -/
theorem rowless_call_fails :
    let c : Call := .binary Comparison.less.operator (.ofTimestamps (some "UTC") [])
      (.ofTimestamps none [])
    let o := Builtin.binary Comparison.less.operator .timestamp .timestamp .bool
      Comparison.less.kernel
    (o ∈ Builtin.all ∧ ∃ q, c.query? = some q ∧ o.fits q) ∧ c.HasRows 0 ∧
      (builtin.invoke c).result = .error (Comparison.less.acrossZones (some "UTC") none) := by
  intro c o
  have hrows : c.HasRows 0 := by
    rw [Call.HasRows, Call.read_binary (by decide)]
    exact List.forall_mem_cons.2 ⟨rfl, List.forall_mem_singleton.2 rfl⟩
  exact ⟨⟨mem_builtin_comparison .less .timestamp, _, rfl, rfl⟩, hrows,
    invoke_of_zone_ne .less (by decide) rfl⟩

end Registry

end ColumnDispatch
