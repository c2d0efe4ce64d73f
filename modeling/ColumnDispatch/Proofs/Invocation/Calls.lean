import ColumnDispatch.Proofs.Registration.Resolution
import ColumnDispatch.Registry.Invoke

/-! Calls of operators on batches. Whatever its class, a call first selects an overload by the types
and the number of its operands, which is resolution when the operands have one type to go by; the
kernel of that overload is then run on the operands, and the type of the batch is checked. Main
statements: `Registry.invoke_of_unselected` and `Registry.invoke_of_selected`, the two ways that a
call can go. -/

namespace ColumnDispatch

/-! ### Calls -/

inductive Call where
  | unary (op : UnaryOperator) (operand : Batch)
  | binary (op : BinaryOperator) (left right : Batch)
  | variadic (op : VariadicOperator) (operands : List Batch)

namespace Call

def operator : Call → Operator
  | unary op _ => .unary op
  | binary op _ _ => .binary op
  | variadic op _ => .variadic op

def operands : Call → List Batch
  | unary _ operand => [operand]
  | binary _ left right => [left, right]
  | variadic _ operands => operands

/-- What the types of the operands ask for. Operands of several types ask for nothing, and a
variadic call without operands has no type to ask with. -/
def query? : Call → Option Query
  | unary op operand => some (.unary op operand.type)
  | binary op left right => some (.binary op left.type right.type)
  | variadic _ [] => none
  | variadic op (first :: rest) =>
    if rest.all (·.type = first.type) then some (.variadic op first.type (rest.length + 1))
    else none

end Call

/-- What the kernel of an overload makes of the operands of a call of its class. -/
def Registration.kernelOutcome? : Registration → Call → Option (Except Failure Batch)
  | .unary o, .unary _ operand => some (o.kernel operand)
  | .binary o, .binary _ left right => some (o.kernel left right)
  | .variadic o, .variadic _ operands => some (o.kernel operands)
  | _, _ => none

/-- A failure to select an overload of the operator. -/
def Failure.IsUnresolved (op : Operator) (failure : Failure) : Prop :=
  (∃ types, failure = .noMatchingOverload op types) ∨
    ∃ expected actual, failure = .arityMismatch op expected actual

theorem Failure.IsUnresolved.not_isKernelFailure {op : Operator} {failure : Failure}
    (h : failure.IsUnresolved op) : failure.isKernelFailure = false := by
  rcases h with ⟨types, rfl⟩ | ⟨expected, actual, rfl⟩ <;> rfl

namespace Traced

variable {α β γ : Type}

theorem map_eq (f : α → β) (x : Traced α) : f <$> x = ⟨x.events, x.result.map f⟩ := by
  obtain ⟨events, result⟩ := x
  cases result with
  | error failure => rfl
  | ok a => simp [Functor.map, Traced.bind, Except.map]

theorem map_map (f : α → β) (g : β → γ) (x : Traced α) : g <$> f <$> x = (g ∘ f) <$> x := by
  obtain ⟨events, result⟩ := x
  cases result <;> simp [map_eq, Except.map]

/-- The value that was found, or a failure. -/
def ofOption (failure : Failure) (events : List Event) : Option α → Traced α
  | some a => pure a
  | none => .fail failure events

theorem map_ofOption (f : α → β) (failure : Failure) (events : List Event) (a? : Option α) :
    f <$> ofOption failure events a? = ofOption failure events (a?.map f) := by
  cases a? <;> rfl

/-- A step that reports nothing, and a check of what it gives. -/
theorem bind_ofExcept (x : Traced α) (step : α → Except Failure β)
    (check : α → β → Except Failure γ) :
    (do
      let a ← x
      let b ← ofExcept (step a)
      ofExcept (check a b)) = ⟨x.events, x.result.bind fun a => (step a).bind (check a)⟩ := by
  obtain ⟨events, result⟩ := x
  cases result with
  | error failure => rfl
  | ok a =>
    cases hstep : step a <;>
      simp [bind, Traced.bind, ofExcept, Except.bind, hstep]

end Traced

namespace Registry

variable {r r' : Registry} {c : Call}

/-- The overload that a call runs, as the registration that it came from. -/
def select (r : Registry) : Call → Traced Registration
  | .unary op operand => .unary <$> r.resolveUnary op operand.type
  | .binary op left right => .binary <$> r.resolveBinary op left.type right.type
  | .variadic op operands => .variadic <$> r.resolveOperands op operands

def invoke (r : Registry) : Call → Traced Batch
  | .unary op operand => r.invokeUnary op operand
  | .binary op left right => r.invokeBinary op left right
  | .variadic op operands => r.invokeVariadic op operands

/-! ### Selection -/

theorem resolveUnary_eq (r : Registry) (op : UnaryOperator) (operand : LogicalType) :
    r.resolveUnary op operand =
      .ofOption (.noMatchingOverload (.unary op) operand.name) [.noUnaryOverload op operand]
        ((r.tables.unary.get op).get? ⟨operand⟩) := by
  unfold resolveUnary
  cases (r.tables.unary.get op).get? ⟨operand⟩ <;> rfl

theorem resolveBinary_eq (r : Registry) (op : BinaryOperator) (left right : LogicalType) :
    r.resolveBinary op left right =
      .ofOption (.noMatchingOverload (.binary op) s!"{left}, {right}")
        [.noBinaryOverload op left right] ((r.tables.binary.get op).get? ⟨left, right⟩) := by
  unfold resolveBinary
  cases (r.tables.binary.get op).get? ⟨left, right⟩ <;> rfl

theorem select_eq_resolve (r : Registry) {q : Query} (h : c.query? = some q) :
    r.select c = r.resolve q := by
  match c, h with
  | .unary op operand, h =>
    obtain rfl := Option.some.inj h
    rfl
  | .binary op left right, h =>
    obtain rfl := Option.some.inj h
    rfl
  | .variadic op (first :: rest), h =>
    simp only [Call.query?] at h
    split at h
    · rename_i hall
      obtain rfl := Option.some.inj h
      simp only [select, resolve, resolveOperands, List.all_cons, hall, decide_true,
        Bool.and_self, if_true, List.length_cons]
    · simp at h

theorem select_congr (h : r.tables = r'.tables) (c : Call) : r.select c = r'.select c := by
  match c with
  | .unary op operand => simp only [select, resolveUnary, h]
  | .binary op left right => simp only [select, resolveBinary, h]
  | .variadic op [] => simp only [select, resolveOperands, resolveNullary, h]
  | .variadic op (first :: rest) => simp only [select, resolveOperands, resolveVariadic, h]

/-! ### Failures to select -/

section Unselected

variable {failure : Failure}

theorem isUnresolved_of_selectVariadic {op : VariadicOperator} {overloads : List VariadicOverload}
    {operand : LogicalType} {count : Nat}
    (h : (selectVariadic op overloads operand count).result = .error failure) :
    failure.IsUnresolved (.variadic op) := by
  simp only [selectVariadic] at h
  split at h
  · cases h
  · split at h
    · exact .inl ⟨_, (Except.error.inj h).symm⟩
    · exact .inr ⟨_, _, (Except.error.inj h).symm⟩

theorem isUnresolved_of_selectNullary {op : VariadicOperator} {overloads : List VariadicOverload}
    (h : (selectNullary op overloads).result = .error failure) :
    failure.IsUnresolved (.variadic op) := by
  simp only [selectNullary] at h
  split at h
  · cases h
  · split at h
    · exact .inr ⟨_, _, (Except.error.inj h).symm⟩
    · exact .inl ⟨_, (Except.error.inj h).symm⟩

theorem isUnresolved_of_select (h : (r.select c).result = .error failure) :
    failure.IsUnresolved c.operator := by
  cases c with
  | unary op operand =>
    simp only [select, Traced.map_eq, except_map_eq_error_iff, resolveUnary_eq] at h
    cases hget : (r.tables.unary.get op).get? ⟨operand.type⟩ with
    | none =>
      rw [hget] at h
      exact .inl ⟨_, (Except.error.inj h).symm⟩
    | some o =>
      rw [hget] at h
      cases h
  | binary op left right =>
    simp only [select, Traced.map_eq, except_map_eq_error_iff, resolveBinary_eq] at h
    cases hget : (r.tables.binary.get op).get? ⟨left.type, right.type⟩ with
    | none =>
      rw [hget] at h
      exact .inl ⟨_, (Except.error.inj h).symm⟩
    | some o =>
      rw [hget] at h
      cases h
  | variadic op operands =>
    simp only [select, Traced.map_eq, except_map_eq_error_iff] at h
    cases operands with
    | nil => exact isUnresolved_of_selectNullary h
    | cons first rest =>
      simp only [resolveOperands] at h
      split at h
      · exact isUnresolved_of_selectVariadic h
      · exact .inl ⟨_, (Except.error.inj h).symm⟩

end Unselected

/-! ### Invocation -/

theorem checkReturnType_of_eq (r : Registry) (op : Operator) {declared : LogicalType} {v : Batch}
    (h : v.type = declared) : r.checkReturnType op declared v = .ok v := by
  simp [checkReturnType, h]

theorem checkReturnType_eq (r : Registry) (op : Operator) (declared : LogicalType) (v : Batch) :
    r.checkReturnType op declared v =
      if r.verifyReturnType ∧ v.type ≠ declared then
        .error (.returnTypeMismatch op declared v.type)
      else .ok v := by
  simp [checkReturnType]

/-- A call that selects nothing fails for that reason. -/
theorem invoke_of_unselected {failure : Failure} (h : (r.select c).result = .error failure) :
    r.invoke c = ⟨(r.select c).events, .error failure⟩ := by
  cases c with
  | unary op operand =>
    simp only [select, Traced.map_eq, except_map_eq_error_iff] at h
    simp only [invoke, invokeUnary, Traced.bind_ofExcept, select, Traced.map_eq, h]
    rfl
  | binary op left right =>
    simp only [select, Traced.map_eq, except_map_eq_error_iff] at h
    simp only [invoke, invokeBinary, Traced.bind_ofExcept, select, Traced.map_eq, h]
    rfl
  | variadic op operands =>
    simp only [select, Traced.map_eq, except_map_eq_error_iff] at h
    simp only [invoke, invokeVariadic, Traced.bind_ofExcept, select, Traced.map_eq, h]
    rfl

/-- A call that selects an overload has the outcome of its kernel, once that is checked. -/
theorem invoke_of_selected {o : Registration} (h : (r.select c).result = .ok o) :
    ∃ outcome, o.kernelOutcome? c = some outcome ∧
      r.invoke c =
        ⟨(r.select c).events, outcome.bind (r.checkReturnType c.operator o.returns)⟩ := by
  cases c with
  | unary op operand =>
    simp only [select, Traced.map_eq, except_map_eq_ok_iff] at h
    obtain ⟨o, ho, rfl⟩ := h
    refine ⟨_, rfl, ?_⟩
    simp only [invoke, invokeUnary, Traced.bind_ofExcept, select, Traced.map_eq, ho]
    rfl
  | binary op left right =>
    simp only [select, Traced.map_eq, except_map_eq_ok_iff] at h
    obtain ⟨o, ho, rfl⟩ := h
    refine ⟨_, rfl, ?_⟩
    simp only [invoke, invokeBinary, Traced.bind_ofExcept, select, Traced.map_eq, ho]
    rfl
  | variadic op operands =>
    simp only [select, Traced.map_eq, except_map_eq_ok_iff] at h
    obtain ⟨o, ho, rfl⟩ := h
    refine ⟨_, rfl, ?_⟩
    simp only [invoke, invokeVariadic, Traced.bind_ofExcept, select, Traced.map_eq, ho]
    rfl

end Registry

end ColumnDispatch
