import ColumnDispatch.Proofs.Invocation.Variadic

/-! The events of calls. A refusal is reported by one event at the trace level that names the
operator, and a call that selects an overload reports nothing, whatever its kernel does. Two kinds
of variadic calls are refused without an event: those on operands of several types, and those
without operands where no overload is registered or several accept none. -/

namespace ColumnDispatch

/-- The event tells at the trace level of a refusal by the operator. -/
def Event.TellsOf (op : Operator) (e : Event) : Prop :=
  e.level = .trace ∧ ("operator", op.name) ∈ e.fields

namespace Traced

variable {α β : Type} {op : Operator}

/-- A refusal is reported by one event, and a success by none. -/
structure ReportsRefusal (op : Operator) (x : Traced α) : Prop where
  refused : ∀ failure, x.result = .error failure → ∃ e, x.events = [e] ∧ e.TellsOf op
  accepted : ∀ a, x.result = .ok a → x.events = []

theorem reportsRefusal_pure (a : α) : (pure a : Traced α).ReportsRefusal op where
  refused _ h := nomatch h
  accepted _ _ := rfl

theorem reportsRefusal_fail {failure : Failure} {e : Event} (he : e.TellsOf op) :
    (fail failure [e] : Traced α).ReportsRefusal op where
  refused _ _ := ⟨e, rfl, he⟩
  accepted _ h := nomatch h

theorem reportsRefusal_ofOption {failure : Failure} {e : Event} (he : e.TellsOf op)
    (a? : Option α) : (ofOption failure [e] a?).ReportsRefusal op := by
  cases a? with
  | some a => exact reportsRefusal_pure a
  | none => exact reportsRefusal_fail he

theorem ReportsRefusal.map {x : Traced α} (h : x.ReportsRefusal op) (f : α → β) :
    (f <$> x).ReportsRefusal op := by
  rw [map_eq]
  refine ⟨fun failure hfailure => h.refused failure (except_map_eq_error_iff.1 hfailure),
    fun b hb => ?_⟩
  obtain ⟨a, ha, -⟩ := except_map_eq_ok_iff.1 hb
  exact h.accepted a ha

end Traced

namespace Registry

variable {r : Registry} {op : VariadicOperator} {os : List VariadicOverload}

/-! ### Resolution -/

theorem reportsRefusal_selectVariadic (op : VariadicOperator) (os : List VariadicOverload)
    (operand : LogicalType) (count : Nat) :
    (selectVariadic op os operand count).ReportsRefusal (.variadic op) := by
  simp only [selectVariadic]
  split
  · exact Traced.reportsRefusal_pure _
  · split
    · exact Traced.reportsRefusal_fail ⟨rfl, List.mem_cons_self⟩
    · exact Traced.reportsRefusal_fail ⟨rfl, List.mem_cons_self⟩

/-- Every query that is refused is reported. -/
theorem reportsRefusal_resolve (r : Registry) (q : Query) :
    (r.resolve q).ReportsRefusal q.operator := by
  cases q with
  | unary op operand =>
    rw [resolve, resolveUnary_eq]
    exact (Traced.reportsRefusal_ofOption ⟨rfl, List.mem_cons_self⟩ _).map _
  | binary op left right =>
    rw [resolve, resolveBinary_eq]
    exact (Traced.reportsRefusal_ofOption ⟨rfl, List.mem_cons_self⟩ _).map _
  | variadic op operand count => exact (reportsRefusal_selectVariadic op _ operand count).map _

/-! ### Calls -/

/-- Whether a call is refused without an event. -/
def RefusesSilently (r : Registry) : Call → Prop
  | .variadic op operands =>
    (∃ v ∈ operands, ∃ w ∈ operands, v.type ≠ w.type) ∨
      operands = [] ∧ (r.variadicOverloads op = [] ∨
        2 ≤ ((r.variadicOverloads op).filter (·.signature.arity.contains 0)).length)
  | _ => False

/-- What a call without operands reports, by the number of overloads that accept none. -/
theorem reportsRefusal_selectNullary (hne : os ≠ [])
    (hfew : (os.filter (·.signature.arity.contains 0)).length < 2) :
    (selectNullary op os).ReportsRefusal (.variadic op) := by
  match hfilter : os.filter (·.signature.arity.contains 0) with
  | [] =>
    rw [selectNullary_of_none hfilter hne]
    exact Traced.reportsRefusal_fail ⟨rfl, List.mem_cons_self⟩
  | [o] =>
    rw [selectNullary_of_one hfilter]
    exact Traced.reportsRefusal_pure o
  | o :: p :: rest =>
    rw [hfilter] at hfew
    simp only [List.length_cons] at hfew
    omega

theorem selectNullary_of_silent (h : os = [] ∨
    2 ≤ (os.filter (·.signature.arity.contains 0)).length) :
    selectNullary op os = .fail (.noMatchingOverload (.variadic op) "()") [] := by
  rcases h with rfl | hmany
  · rfl
  · match hfilter : os.filter (·.signature.arity.contains 0) with
    | [] => simp [hfilter] at hmany
    | [o] => simp [hfilter] at hmany
    | o :: p :: rest => exact selectNullary_of_several hfilter

/-- The listed overloads stand for those of the slot. -/
theorem refusesSilently_nil_iff :
    r.RefusesSilently (.variadic op []) ↔ r.tables.variadic.get op = [] ∨
      2 ≤ ((r.tables.variadic.get op).filter (·.signature.arity.contains 0)).length := by
  have hlist := variadicOverloads_perm r op
  have hnil : r.variadicOverloads op = [] ↔ r.tables.variadic.get op = [] := by
    rw [← List.length_eq_zero_iff, hlist.length_eq, List.length_eq_zero_iff]
  simp [RefusesSilently, hnil, (hlist.filter _).length_eq]

/-- The calls that are refused without an event are refused for want of an overload. -/
theorem RefusesSilently.select {c : Call} (h : r.RefusesSilently c) :
    ∃ types, r.select c = .fail (.noMatchingOverload c.operator types) [] := by
  cases c with
  | unary op operand => exact h.elim
  | binary op left right => exact h.elim
  | variadic op operands =>
    cases operands with
    | nil =>
      refine ⟨"()", ?_⟩
      rw [Registry.select, resolveOperands, resolveNullary,
        selectNullary_of_silent (refusesSilently_nil_iff.1 h)]
      rfl
    | cons first rest =>
      obtain hmixed | ⟨hnil, -⟩ := h
      · rw [Registry.select, resolveOperands_of_mixed r op hmixed]
        exact ⟨_, rfl⟩
      · cases hnil

/-- Every other call that is refused is reported. -/
theorem reportsRefusal_select {c : Call} (h : ¬r.RefusesSilently c) :
    (r.select c).ReportsRefusal c.operator := by
  cases c with
  | unary op operand => exact reportsRefusal_resolve r (.unary op operand.type)
  | binary op left right => exact reportsRefusal_resolve r (.binary op left.type right.type)
  | variadic op operands =>
    cases operands with
    | nil =>
      rw [refusesSilently_nil_iff, not_or, Nat.not_le] at h
      exact (reportsRefusal_selectNullary h.1 h.2).map _
    | cons first rest =>
      have hsame : ∀ v ∈ first :: rest, v.type = first.type := fun v hv =>
        Decidable.byContradiction fun hne => h (.inl ⟨v, hv, first, List.mem_cons_self, hne⟩)
      rw [select, resolveOperands_of_same r op (List.cons_ne_nil _ _) hsame]
      exact (reportsRefusal_selectVariadic op _ _ _).map _

/-- Neither the kernel nor the check of its batch reports anything. -/
theorem events_invoke (r : Registry) (c : Call) : (r.invoke c).events = (r.select c).events := by
  cases hselect : (r.select c).result with
  | error failure => rw [invoke_of_unselected hselect]
  | ok o =>
    obtain ⟨outcome, -, hinvoke⟩ := invoke_of_selected hselect
    rw [hinvoke]

/-- What queries and calls report. -/
theorem refusals_reported_once (r : Registry) :
    (∀ q,
      (∀ failure, (r.resolve q).result = .error failure →
        ∃ e, (r.resolve q).events = [e] ∧ e.level = .trace ∧
          ("operator", q.operator.name) ∈ e.fields) ∧
      ∀ o, (r.resolve q).result = .ok o → (r.resolve q).events = []) ∧
    ∀ c,
      -- no overload is selected: no kernel runs
      (∀ failure, (r.select c).result = .error failure →
        (r.invoke c).result = .error failure ∧ failure.IsUnresolved c.operator ∧
        (¬r.RefusesSilently c → ∃ e, (r.invoke c).events = [e] ∧ e.level = .trace ∧
          ("operator", c.operator.name) ∈ e.fields)) ∧
      -- an overload is selected, whatever becomes of the call then
      (∀ o, (r.select c).result = .ok o → (r.invoke c).events = []) ∧
      -- the calls that are refused without an event
      (r.RefusesSilently c → ∃ types,
        r.invoke c = .fail (.noMatchingOverload c.operator types) []) := by
  refine ⟨fun q => ?_, fun c => ⟨fun failure hselect => ⟨?_, isUnresolved_of_select hselect,
    fun hloud => ?_⟩, fun o hselect => ?_, fun hsilent => ?_⟩⟩
  · have hq := reportsRefusal_resolve r q
    exact ⟨hq.refused, hq.accepted⟩
  · rw [invoke_of_unselected hselect]
  · rw [events_invoke]
    exact (reportsRefusal_select hloud).refused failure hselect
  · rw [events_invoke]
    refine (reportsRefusal_select fun hsilent => ?_).accepted o hselect
    obtain ⟨types, hrefused⟩ := hsilent.select
    rw [hrefused] at hselect
    cases hselect
  · obtain ⟨types, hrefused⟩ := hsilent.select
    have hresult : (r.select c).result = .error (.noMatchingOverload c.operator types) := by
      rw [hrefused]
      rfl
    refine ⟨types, ?_⟩
    rw [invoke_of_unselected hresult, hrefused]
    rfl

/-- Operands of two types, and no operands where no overload is registered. -/
theorem silent_refusals :
    let r := Builder.empty.freeze.1
    let integers : Batch := .ofCells .int64 [some (1 : Int64)]
    let texts : Batch := .ofCells .string [some "a"]
    let mixed := r.invoke (.variadic .coalesce [integers, texts])
    let nullary := r.invoke (.variadic .concat [])
    mixed.result = .error (.noMatchingOverload (.variadic .coalesce) "INT64, STRING") ∧
      mixed.events = [] ∧
      nullary.result = .error (.noMatchingOverload (.variadic .concat) "()") ∧
      nullary.events = [] :=
  ⟨rfl, rfl, rfl, rfl⟩

end Registry

end ColumnDispatch
