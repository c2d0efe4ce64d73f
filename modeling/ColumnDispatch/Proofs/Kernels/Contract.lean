import ColumnDispatch.Proofs.Kernels.BuiltinCalls

/-! The contract of the built-in overloads. On canonical operands a call either selects no overload
and fails for that reason, or it gives a canonical batch of the declared type with a row for each
row of the first operand, or it fails with a fault of the computation. No check of result types is
ever at work, and operands of different lengths are never brought to one length. -/

namespace ColumnDispatch

open Kernel

namespace Registry

variable {r r' : Registry} {c : Call} {o : Registration}

/-- The same overloads give the same outcomes, whether results are checked or not. -/
theorem invoke_congr (h : r.tables.Holds Builtin.all) (h' : r'.tables.Holds Builtin.all)
    (hc : ∀ b ∈ c.read, b.IsCanonical) : r.invoke c = r'.invoke c := by
  have hselect : r.select c = r'.select c := select_congr (h.unique h') c
  cases hresult : (r.select c).result with
  | error failure =>
    rw [invoke_of_unselected hresult, invoke_of_unselected (hselect ▸ hresult), hselect]
  | ok o =>
    obtain ⟨outcome, _, houtcome, -, -, hinvoke⟩ :=
      exists_invoke_eq h hc ((select_eq_ok_iff h).1 hresult)
    obtain ⟨outcome', _, houtcome', -, -, hinvoke'⟩ :=
      exists_invoke_eq h' hc ((select_eq_ok_iff h').1 (hselect ▸ hresult))
    obtain rfl : outcome = outcome' := Option.some.inj (houtcome.symm.trans houtcome')
    rw [hinvoke, hinvoke', hselect]

/-- Only a cast goes by one operand; for any other the two have to be equally long. -/
theorem invoke_of_length_ne (h : r.tables.Holds Builtin.all) {op : BinaryOperator}
    {left right : Batch} (hc : ∀ b ∈ (Call.binary op left right).read, b.IsCanonical)
    (hop : op ≠ .cast) (hselects : r.Selects (.binary op left right) o)
    (hlength : left.length ≠ right.length) :
    ∃ fault, (r.invoke (.binary op left right)).result = .error (.compute fault) := by
  obtain ⟨outcome, _, houtcome, -, -, hinvoke⟩ := exists_invoke_eq h hc hselects
  rw [hinvoke]
  cases takes_of_selects h hc hselects with
  | cast => exact absurd rfl hop
  | binary _ form =>
    obtain rfl := Option.some.inj houtcome
    exact form.isCompute_of_length_ne hlength

theorem isUnresolved_of_not_selects (h : r.tables.Holds Builtin.all)
    (hselects : ¬∃ o, r.Selects c o) :
    ∃ failure, (r.invoke c).result = .error failure ∧ failure.IsUnresolved c.operator := by
  cases hresult : (r.select c).result with
  | error failure =>
    exact ⟨failure, by rw [invoke_of_unselected hresult], isUnresolved_of_select hresult⟩
  | ok o => exact absurd ⟨o, (select_eq_ok_iff h).1 hresult⟩ hselects

/-- Operands of several types select nothing, and neither do none. -/
theorem not_selects_of_mixed {op : VariadicOperator} {operands : List Batch}
    (hmixed : operands = [] ∨ ∃ b ∈ operands, ∃ b' ∈ operands, b.type ≠ b'.type) :
    ¬∃ o, r.Selects (.variadic op operands) o := by
  rintro ⟨o, q, hq, -⟩
  obtain ⟨first, rest, rfl, htypes, -⟩ := Call.exists_of_query?_variadic hq
  rcases hmixed with hnil | ⟨b, hb, b', hb', hne⟩
  · cases hnil
  · exact hne ((htypes b hb).trans (htypes b' hb').symm)

/-- A batch that a call gives is of the declared type, with as many rows as the first operand. -/
theorem exists_selects_of_invoke_ok (h : r.tables.Holds Builtin.all)
    (hc : ∀ b ∈ c.read, b.IsCanonical) {v : Batch} (hv : (r.invoke c).result = .ok v) :
    ∃ o first, r.Selects c o ∧ v.type = o.returns ∧ v.IsCanonical ∧
      c.operands.head? = some first ∧ v.length = first.length := by
  by_cases hselects : ∃ o, r.Selects c o
  · obtain ⟨o, ho⟩ := hselects
    obtain ⟨outcome, first, -, hfirst, hanswer, hinvoke⟩ := exists_invoke_eq h hc ho
    obtain rfl : outcome = .ok v := by rw [← hv, hinvoke]
    obtain ⟨htype, hcanonical, hlength⟩ := hanswer.result v rfl
    exact ⟨o, first, ho, htype, hcanonical, hfirst, hlength⟩
  · obtain ⟨failure, hfailure, -⟩ := isUnresolved_of_not_selects h hselects
    simp [hv] at hfailure

/-- A call that fails either selects nothing or has a fault of the computation. -/
theorem failure_cases (h : r.tables.Holds Builtin.all) (hc : ∀ b ∈ c.read, b.IsCanonical)
    {failure : Failure} (hfailure : (r.invoke c).result = .error failure) :
    ((¬∃ o, r.Selects c o) ∧ failure.IsUnresolved c.operator) ∨
      ((∃ o, r.Selects c o) ∧ failure.IsCompute) := by
  by_cases hselects : ∃ o, r.Selects c o
  · obtain ⟨o, ho⟩ := hselects
    obtain ⟨outcome, _, -, -, hanswer, hinvoke⟩ := exists_invoke_eq h hc ho
    obtain rfl : outcome = .error failure := by rw [← hfailure, hinvoke]
    exact .inr ⟨⟨o, ho⟩, hanswer.fault failure rfl⟩
  · obtain ⟨failure', hfailure', hunresolved⟩ := isUnresolved_of_not_selects h hselects
    obtain rfl : failure = failure' := by simpa [hfailure] using hfailure'
    exact .inl ⟨hselects, hunresolved⟩

/-- What a call to the built-in overloads gives, and how it can fail. -/
theorem builtin_contract (c : Call) (hc : ∀ b ∈ c.operands, b.IsCanonical) :
    (∀ v, (builtin.invoke c).result = .ok v → ∃ o first, builtin.Selects c o ∧
      v.type = o.returns ∧ v.IsCanonical ∧ c.operands.head? = some first ∧
      v.length = first.length) ∧
    (∀ failure, (builtin.invoke c).result = .error failure →
      (failure.IsUnresolved c.operator ↔ ¬∃ o, builtin.Selects c o) ∧
      (failure.IsCompute ↔ ∃ o, builtin.Selects c o) ∧
      (failure.isKernelFailure ↔ ∃ o, builtin.Selects c o)) ∧
    (∀ op operands, c = .variadic op operands →
      operands = [] ∨ (∃ b ∈ operands, ∃ b' ∈ operands, b.type ≠ b'.type) →
      ∃ failure, (builtin.invoke c).result = .error failure ∧ failure.IsUnresolved c.operator) ∧
    (∀ settings : Settings, settings.includeBuiltins →
      (Builder.ofSettings settings).builder.freeze.1.invoke c = builtin.invoke c) ∧
    ∀ op left right, c = .binary op left right → op ≠ .cast → left.length ≠ right.length →
      (∃ o, builtin.Selects c o) →
      ∃ fault, (builtin.invoke c).result = .error (.compute fault) := by
  have hread : ∀ b ∈ c.read, b.IsCanonical := fun b hb => hc b (Call.mem_operands_of_read hb)
  refine ⟨fun v => exists_selects_of_invoke_ok holds_builtin hread, fun failure hfailure => ?_, ?_,
    fun settings hsettings => ?_, ?_⟩
  · rcases failure_cases holds_builtin hread hfailure with
      ⟨hselects, hunresolved⟩ | ⟨hselects, hcompute⟩
    · exact ⟨iff_of_true hunresolved hselects,
        iff_of_false (fun hcompute => hcompute.not_isUnresolved hunresolved) hselects,
        iff_of_false (by simp [hunresolved.not_isKernelFailure]) hselects⟩
    · exact ⟨iff_of_false hcompute.not_isUnresolved (not_not_intro hselects),
        iff_of_true hcompute hselects, iff_of_true hcompute.isKernelFailure hselects⟩
  · rintro op operands rfl hmixed
    exact isUnresolved_of_not_selects holds_builtin (not_selects_of_mixed hmixed)
  · exact invoke_congr (Builder.holds_ofSettings hsettings) holds_builtin hread
  · rintro op left right rfl hop hlength ⟨o, ho⟩
    exact invoke_of_length_ne holds_builtin hread hop ho hlength

/-- A row that is not added to each of three. -/
theorem builtin_contract_of_one_row :
    let left : Batch := .ofCells .int64 [some (1 : Int64), none, some (2 : Int64)]
    let right : Batch := .ofCells .int64 [some (1 : Int64)]
    (∀ b ∈ [left, right], b.IsCanonical) ∧ left.length ≠ right.length ∧
      ∃ fault, (builtin.invoke (.binary .plus left right)).result = .error (.compute fault) := by
  intro left right
  have hc : ∀ b ∈ [left, right], b.IsCanonical := by
    simp [left, right, Batch.IsCanonical, Batch.ofCells]
  have hlength : left.length ≠ right.length := by decide
  have hselects : ∃ o, builtin.Selects (.binary .plus left right) o := by
    have ho : Builtin.binary .plus .int64 .int64 .int64 Arithmetic.plus.kernel ∈ Builtin.all := by
      simp [Builtin.all, Builtin.arithmetic, Builtin.numericTypes, Arithmetic.all,
        Arithmetic.operator]
    exact ⟨_, (selects_iff holds_builtin).2 ⟨ho, _, rfl, rfl⟩⟩
  obtain ⟨-, -, -, -, hbinary⟩ := builtin_contract (.binary .plus left right) hc
  exact ⟨hc, hlength, hbinary .plus left right rfl (by decide) hlength hselects⟩

end Registry

end ColumnDispatch
