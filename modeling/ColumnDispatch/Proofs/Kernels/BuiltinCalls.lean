import ColumnDispatch.Proofs.Invocation.Transparency
import ColumnDispatch.Proofs.Kernels.BuiltinForms
import ColumnDispatch.Proofs.Registration.Atomicity

/-! Calls to a registry of the built-in overloads. A call selects what resolution selects for the
types of its operands, and nothing if they are of several types or if there are none. On canonical
operands the kernel of the selected overload gives a result that passes the check of its type, so
the outcome of the call is that of the kernel. -/

namespace ColumnDispatch

/-! ### Selection -/

/-- The overload that resolution selects for the operands of a call. -/
def Registry.Selects (r : Registry) (c : Call) (o : Registration) : Prop :=
  ∃ q, c.query? = some q ∧ (r.resolve q).result = .ok o

theorem Failure.IsCompute.isKernelFailure {failure : Failure} (h : failure.IsCompute) :
    failure.isKernelFailure = true := by
  obtain ⟨fault, rfl⟩ := h
  rfl

theorem Failure.IsCompute.not_isUnresolved {op : Operator} {failure : Failure}
    (h : failure.IsCompute) : ¬failure.IsUnresolved op := fun hunresolved => by
  simpa [h.isKernelFailure] using hunresolved.not_isKernelFailure

/-! ### Operands -/

namespace Call

/-- The operands that a kernel reads. A cast only asks for the type of its second one. -/
def read : Call → List Batch
  | .binary .cast left _ => [left]
  | c => c.operands

theorem read_binary {op : BinaryOperator} (hop : op ≠ .cast) (left right : Batch) :
    (binary op left right).read = [left, right] := by
  unfold read
  split
  · simp_all
  · rfl

theorem mem_operands_of_read {c : Call} {b : Batch} (hb : b ∈ c.read) : b ∈ c.operands := by
  unfold read at hb
  split at hb
  · rw [List.mem_singleton.1 hb]
    exact List.mem_cons_self
  · exact hb

variable {c : Call} {q : Query}

theorem exists_of_query?_variadic {op : VariadicOperator} {operands : List Batch}
    (h : (variadic op operands).query? = some q) :
    ∃ first rest, operands = first :: rest ∧ (∀ b ∈ first :: rest, b.type = first.type) ∧
      q = .variadic op first.type (rest.length + 1) := by
  cases operands with
  | nil => cases h
  | cons first rest =>
    simp only [query?] at h
    split at h
    · rename_i hall
      exact ⟨first, rest, rfl, by simpa using hall, (Option.some.inj h).symm⟩
    · cases h

theorem eq_of_query?_unary {op : UnaryOperator} {t : LogicalType}
    (h : c.query? = some (.unary op t)) : ∃ b, c = .unary op b ∧ b.type = t := by
  cases c with
  | unary _ b =>
    cases h
    exact ⟨b, rfl, rfl⟩
  | binary => cases h
  | variadic =>
    obtain ⟨_, _, -, -, hq⟩ := exists_of_query?_variadic h
    cases hq

theorem eq_of_query?_binary {op : BinaryOperator} {t t' : LogicalType}
    (h : c.query? = some (.binary op t t')) :
    ∃ left right, c = .binary op left right ∧ left.type = t ∧ right.type = t' := by
  cases c with
  | unary => cases h
  | binary _ left right =>
    cases h
    exact ⟨left, right, rfl, rfl, rfl⟩
  | variadic =>
    obtain ⟨_, _, -, -, hq⟩ := exists_of_query?_variadic h
    cases hq

theorem eq_of_query?_variadic {op : VariadicOperator} {t : LogicalType} {count : Nat}
    (h : c.query? = some (.variadic op t count)) :
    ∃ first rest, c = .variadic op (first :: rest) ∧ ∀ b ∈ first :: rest, b.type = t := by
  cases c with
  | unary | binary => cases h
  | variadic =>
    obtain ⟨first, rest, rfl, ht, hq⟩ := exists_of_query?_variadic h
    cases hq
    exact ⟨first, rest, rfl, ht⟩

end Call

/-- The canonical batches are those that are built from cells of their type. -/
theorem Batch.isCanonical_iff_exists_cells {b : Batch} :
    b.IsCanonical ↔ ∃ cells, b = .ofCells b.type cells := by
  constructor
  · intro h
    obtain ⟨type, storage, cells⟩ := b
    obtain rfl : storage = type.storage := h
    exact ⟨cells, rfl⟩
  · rintro ⟨cells, hb⟩
    exact congrArg (·.column.storage) hb

theorem Batch.IsCanonical.exists_cells {b : Batch} {t : LogicalType} (h : b.IsCanonical)
    (ht : b.type = t) : ∃ cells, b = .ofCells t cells :=
  ht ▸ Batch.isCanonical_iff_exists_cells.1 h

theorem Batch.exists_columns {bs : List Batch} {t : LogicalType} (h : ∀ b ∈ bs, b.IsCanonical)
    (ht : ∀ b ∈ bs, b.type = t) :
    ∃ columns : List (List (Option t.storage.Cell)), bs = columns.map (.ofCells t) := by
  induction bs with
  | nil => exact ⟨[], rfl⟩
  | cons b bs ih =>
    simp only [List.forall_mem_cons] at h ht
    obtain ⟨cells, rfl⟩ := h.1.exists_cells ht.1
    obtain ⟨columns, rfl⟩ := ih h.2 ht.2
    exact ⟨cells :: columns, rfl⟩

namespace Registration

/-- The overloads in row form, with the calls that fit them and read canonical operands only. -/
inductive Takes : Registration → Call → Prop
  | unary {op : UnaryOperator} {t u : LogicalType} {kernel : UnaryKernel}
      (form : UnaryForm t u kernel) (cells : List (Option t.storage.Cell)) :
      Takes (Builtin.unary op t u kernel) (.unary op (.ofCells t cells))
  | binary {op : BinaryOperator} {t u : LogicalType} {kernel : BinaryKernel} (hop : op ≠ .cast)
      (form : BinaryForm t u kernel) (hstrict : (Operator.binary op).isStrict → form.IsStrict)
      (xs ys : List (Option t.storage.Cell)) :
      Takes (Builtin.binary op t t u kernel) (.binary op (.ofCells t xs) (.ofCells t ys))
  | cast {t u : LogicalType} {kernel : UnaryKernel} (form : UnaryForm t u kernel)
      (cells : List (Option t.storage.Cell)) (right : Batch) :
      Takes (Builtin.binary .cast t u u fun left _ => kernel left)
        (.binary .cast (.ofCells t cells) right)
  | variadic {op : VariadicOperator} {t : LogicalType} {min : Nat} {kernel : VariadicKernel}
      (form : VariadicForm t kernel) (hstrict : (Operator.variadic op).isStrict → form.IsStrict)
      (first : List (Option t.storage.Cell)) (rest : List (List (Option t.storage.Cell))) :
      Takes (Builtin.variadic op t min kernel) (.variadic op ((first :: rest).map (.ofCells t)))

variable {o : Registration} {c : Call} {q : Query}

theorem eq_of_fits_unary {op : UnaryOperator} {t u : LogicalType} {kernel : UnaryKernel}
    (h : (Builtin.unary op t u kernel).fits q) : q = .unary op t := by
  cases q with
  | unary op' operand =>
    simp only [Builtin.unary, fits, toUnary?, Option.any_some, Bool.and_eq_true,
      decide_eq_true_eq] at h
    obtain ⟨rfl, hsignature⟩ := h
    cases hsignature
    rfl
  | binary | variadic => cases h

theorem eq_of_fits_binary {op : BinaryOperator} {t t' u : LogicalType} {kernel : BinaryKernel}
    (h : (Builtin.binary op t t' u kernel).fits q) : q = .binary op t t' := by
  cases q with
  | binary op' left right =>
    simp only [Builtin.binary, fits, toBinary?, Option.any_some, Bool.and_eq_true,
      decide_eq_true_eq] at h
    obtain ⟨rfl, hsignature⟩ := h
    cases hsignature
    rfl
  | unary | variadic => cases h

theorem eq_of_fits_variadic {op : VariadicOperator} {t : LogicalType} {min : Nat}
    {kernel : VariadicKernel} (h : (Builtin.variadic op t min kernel).fits q) :
    ∃ count, q = .variadic op t count := by
  cases q with
  | variadic op' operand count =>
    simp only [Builtin.variadic, fits, toVariadic?, Option.any_some, VariadicSignature.accepts,
      Bool.and_eq_true, decide_eq_true_eq] at h
    obtain ⟨rfl, rfl, -⟩ := h
    exact ⟨count, rfl⟩
  | unary | binary => cases h

theorem takes_of_fits (ho : o.IsRowwise) (hq : c.query? = some q) (hfits : o.fits q)
    (hc : ∀ b ∈ c.read, b.IsCanonical) : o.Takes c := by
  cases ho with
  | unary form =>
    obtain rfl := eq_of_fits_unary hfits
    obtain ⟨b, rfl, hb⟩ := Call.eq_of_query?_unary hq
    obtain ⟨cells, rfl⟩ := (hc b List.mem_cons_self).exists_cells hb
    exact .unary form cells
  | binary hop form hstrict =>
    obtain rfl := eq_of_fits_binary hfits
    obtain ⟨left, right, rfl, hl, hr⟩ := Call.eq_of_query?_binary hq
    simp only [Call.read_binary hop, List.forall_mem_cons] at hc
    obtain ⟨xs, rfl⟩ := hc.1.exists_cells hl
    obtain ⟨ys, rfl⟩ := hc.2.1.exists_cells hr
    exact .binary hop form hstrict xs ys
  | cast form =>
    obtain rfl := eq_of_fits_binary hfits
    obtain ⟨left, right, rfl, hl, -⟩ := Call.eq_of_query?_binary hq
    obtain ⟨cells, rfl⟩ := (hc left List.mem_cons_self).exists_cells hl
    exact .cast form cells right
  | variadic hmin form hstrict =>
    obtain ⟨count, rfl⟩ := eq_of_fits_variadic hfits
    obtain ⟨first, rest, rfl, ht⟩ := Call.eq_of_query?_variadic hq
    have hc : ∀ b ∈ first :: rest, b.IsCanonical := hc
    simp only [List.forall_mem_cons] at hc ht
    obtain ⟨column, rfl⟩ := hc.1.exists_cells ht.1
    obtain ⟨columns, rfl⟩ := Batch.exists_columns hc.2 ht.2
    exact .variadic form hstrict column columns

/-- What a kernel in row form may answer to a call that its overload takes. -/
theorem Takes.exists_outcome (h : o.Takes c) :
    ∃ outcome first, o.kernelOutcome? c = some outcome ∧ c.operands.head? = some first ∧
      IsAnswer o.returns first.length outcome := by
  cases h with
  | unary form cells => exact ⟨_, _, rfl, rfl, form.isAnswer cells⟩
  | binary hop form hstrict xs ys => exact ⟨_, _, rfl, rfl, form.isAnswer xs ys⟩
  | cast form cells right => exact ⟨_, _, rfl, rfl, form.isAnswer cells⟩
  | variadic form hstrict first rest => exact ⟨_, _, rfl, rfl, form.isAnswer first rest⟩

end Registration

/-! ### Registries of the built-in overloads -/

/-- A builder made with the built-in overloads has them all. -/
theorem Builder.holds_ofSettings {settings : Settings} (h : settings.includeBuiltins) :
    (ofSettings settings).builder.tables.Holds Builtin.all := by
  have hstart : Records ⟨settings, .empty⟩ [] := records_empty settings
  have hconsistent : Consistent ([] ++ Builtin.all) := .builtins
  have hall := hstart.registerAll Builtin.all
  rw [(hstart.registerAll_of_consistent hconsistent).2] at hall
  rw [ofSettings, if_pos h, registerBuiltins_builder]
  exact hall.holds

namespace Registry

open Kernel

variable {r r' : Registry} {c : Call} {o : Registration}

/-- A call selects the built-in overload that fits it; there is never more than one. -/
theorem selects_iff (h : r.tables.Holds Builtin.all) :
    r.Selects c o ↔ o ∈ Builtin.all ∧ ∃ q, c.query? = some q ∧ o.fits q := by
  have hone (q : Query) : (Builtin.all.filter (·.fits q)).length ≤ 1 :=
    length_filter_le_one <| Consistent.builtins.apart.imp fun hapart hboth => by
      simp [Registration.conflicts_of_fits hboth.1 hboth.2] at hapart
  simp only [Selects, resolve_eq_ok_iff h]
  constructor
  · rintro ⟨q, hq, hfind⟩
    exact ⟨List.mem_of_find?_eq_some hfind, q, hq, by simpa using List.find?_some hfind⟩
  · rintro ⟨ho, q, hq, hfits⟩
    have hsome : (Builtin.all.find? (·.fits q)).isSome := List.find?_isSome.2 ⟨o, ho, hfits⟩
    obtain ⟨p, hp⟩ := Option.isSome_iff_exists.1 hsome
    have hp' : p.fits q := by simpa using List.find?_some hp
    obtain rfl : p = o :=
      eq_of_length_filter_le_one (hone q) (List.mem_of_find?_eq_some hp) ho hp' hfits
    exact ⟨q, hq, hp⟩

/-- No built-in overload accepts a call without operands. -/
theorem not_contains_zero (h : r.tables.Holds Builtin.all) {op : VariadicOperator}
    {overload : VariadicOverload} (hmem : overload ∈ r.tables.variadic.get op) :
    overload.signature.arity.contains 0 = false := by
  rw [h.variadic op] at hmem
  obtain ⟨registration, hregistration, hvariadic⟩ :=
    List.mem_filterMap.1 (List.mem_filter.1 hmem).1
  obtain rfl := Registration.toVariadic?_eq_some_iff.1 hvariadic
  cases Builtin.isRowwise hregistration with
  | variadic hmin form hstrict => simp [Arity.contains, Arity.atLeast, Nat.ne_of_gt hmin]

/-- Operands of several types select nothing, and neither do none. -/
theorem exists_error_of_query?_eq_none (h : r.tables.Holds Builtin.all) (hq : c.query? = none) :
    ∃ failure, (r.select c).result = .error failure := by
  cases c with
  | unary | binary => cases hq
  | variadic op operands =>
    simp only [select, Traced.map_eq, except_map_eq_error_iff]
    cases operands with
    | nil =>
      have hnone : (r.tables.variadic.get op).filter (·.signature.arity.contains 0) = [] :=
        List.filter_eq_nil_iff.2 fun overload hmem => by simp [not_contains_zero h hmem]
      simp only [resolveOperands, resolveNullary, selectNullary, hnone]
      split <;> exact ⟨_, rfl⟩
    | cons first rest =>
      have hmixed : ¬(first :: rest).all (·.type = first.type) := by
        simpa [Call.query?] using hq
      simp only [resolveOperands, if_neg hmixed]
      exact ⟨_, rfl⟩

theorem select_eq_ok_iff (h : r.tables.Holds Builtin.all) :
    (r.select c).result = .ok o ↔ r.Selects c o := by
  cases hq : c.query? with
  | none =>
    obtain ⟨failure, hfailure⟩ := exists_error_of_query?_eq_none h hq
    simp [Selects, hq, hfailure]
  | some q => simp [Selects, hq, select_eq_resolve r hq]

theorem takes_of_selects (h : r.tables.Holds Builtin.all) (hc : ∀ b ∈ c.read, b.IsCanonical)
    (hselects : r.Selects c o) : o.Takes c := by
  obtain ⟨ho, q, hq, hfits⟩ := (selects_iff h).1 hselects
  exact Registration.takes_of_fits (Builtin.isRowwise ho) hq hfits hc

/-- Where the selected kernel gives a batch of the declared type, the call gives it too. -/
theorem invoke_of_selects (h : r.tables.Holds Builtin.all) (hselects : r.Selects c o)
    {outcome : Except Failure Batch} (houtcome : o.kernelOutcome? c = some outcome)
    (htype : ∀ v, outcome = .ok v → v.type = o.returns) :
    r.invoke c = ⟨(r.select c).events, outcome⟩ := by
  obtain ⟨outcome', houtcome', hinvoke⟩ := invoke_of_selected ((select_eq_ok_iff h).2 hselects)
  obtain rfl : outcome = outcome' := Option.some.inj (houtcome.symm.trans houtcome')
  rw [hinvoke]
  cases outcome with
  | error failure => rfl
  | ok v => rw [Except.bind, r.checkReturnType_of_eq _ (htype v rfl)]

/-- The outcome of a call is that of the kernel that it selects, and passes every check. -/
theorem exists_invoke_eq (h : r.tables.Holds Builtin.all) (hc : ∀ b ∈ c.read, b.IsCanonical)
    (hselects : r.Selects c o) :
    ∃ outcome first, o.kernelOutcome? c = some outcome ∧ c.operands.head? = some first ∧
      IsAnswer o.returns first.length outcome ∧ r.invoke c = ⟨(r.select c).events, outcome⟩ := by
  obtain ⟨outcome, first, houtcome, hfirst, hanswer⟩ :=
    (takes_of_selects h hc hselects).exists_outcome
  exact ⟨outcome, first, houtcome, hfirst, hanswer,
    invoke_of_selects h hselects houtcome fun v hv => (hanswer.result v hv).1⟩

theorem holds_builtin : builtin.tables.Holds Builtin.all := Builder.holds_ofSettings rfl

/-! ### Calls that fit an overload -/

/-- A call that a built-in overload fits has the outcome of its kernel, if that is of the declared
type. -/
theorem invoke_of_fits (ho : o ∈ Builtin.all) {q : Query} (hq : c.query? = some q)
    (hfits : o.fits q) {outcome : Except Failure Batch}
    (houtcome : o.kernelOutcome? c = some outcome)
    (htype : ∀ v, outcome = .ok v → v.type = o.returns) :
    (builtin.invoke c).result = outcome := by
  rw [invoke_of_selects holds_builtin ((selects_iff holds_builtin).2 ⟨ho, q, hq, hfits⟩) houtcome
    htype]

theorem invoke_unary {op : UnaryOperator} {u : LogicalType} {kernel : UnaryKernel} {operand : Batch}
    (ho : Builtin.unary op operand.type u kernel ∈ Builtin.all)
    (htype : ∀ v, kernel operand = .ok v → v.type = u) :
    (builtin.invoke (.unary op operand)).result = kernel operand :=
  invoke_of_fits ho rfl (by simp [Builtin.unary, Registration.fits, Registration.toUnary?]) rfl
    htype

theorem invoke_binary {op : BinaryOperator} {u : LogicalType} {kernel : BinaryKernel}
    {left right : Batch} (ho : Builtin.binary op left.type right.type u kernel ∈ Builtin.all)
    (htype : ∀ v, kernel left right = .ok v → v.type = u) :
    (builtin.invoke (.binary op left right)).result = kernel left right :=
  invoke_of_fits ho rfl (by simp [Builtin.binary, Registration.fits, Registration.toBinary?]) rfl
    htype

/-- A call of a kernel in row form runs it down the rows. -/
theorem invoke_binaryForm {op : BinaryOperator} {t u : LogicalType} {kernel : BinaryKernel}
    (ho : Builtin.binary op t t u kernel ∈ Builtin.all) (form : BinaryForm t u kernel)
    {xs ys : List (Option t.storage.Cell)} (h : xs.length = ys.length) :
    (builtin.invoke (.binary op (.ofCells t xs) (.ofCells t ys))).result =
      (eachPair form.row xs ys).map (.ofCells u) :=
  (invoke_binary ho fun v hv => ((form.isAnswer xs ys).result v hv).1).trans
    (form.kernel_of_length_eq h)

theorem invoke_variadic {op : VariadicOperator} {min : Nat} {kernel : VariadicKernel}
    {first : Batch} {rest : List Batch}
    (ho : Builtin.variadic op first.type min kernel ∈ Builtin.all)
    (hcount : min ≤ rest.length + 1) (hrest : ∀ b ∈ rest, b.type = first.type)
    (htype : ∀ v, kernel (first :: rest) = .ok v → v.type = first.type) :
    (builtin.invoke (.variadic op (first :: rest))).result = kernel (first :: rest) := by
  have hall : rest.all (·.type = first.type) := by simpa using hrest
  have hq : (Call.variadic op (first :: rest)).query? =
      some (.variadic op first.type (rest.length + 1)) := if_pos hall
  refine invoke_of_fits ho hq ?_ rfl htype
  simp [Builtin.variadic, Registration.fits, Registration.toVariadic?, VariadicSignature.accepts,
    Arity.contains, Arity.atLeast, hcount]

end Registry

end ColumnDispatch
