import ColumnDispatch.Proofs.Invocation.Calls
import ColumnDispatch.Proofs.Registration.Introspection
import Mathlib.Logic.ExistsUnique

/-! Every way that a variadic call can go. Operands of several types are refused whatever is
registered; operands of one type are a query for that type and their number. A call without operands
has no type, so it looks at the overloads of all types that accept none: as two overloads of one
type share no count, one such overload is the same as one such type. -/

namespace ColumnDispatch

namespace Registry

variable {r : Registry} {op : VariadicOperator} {operand : LogicalType} {count : Nat}
  {o : VariadicOverload}

/-! ### Queries for one type -/

theorem variadicOverloads_perm (r : Registry) (op : VariadicOperator) :
    (r.variadicOverloads op).Perm (r.tables.variadic.get op) :=
  Overload.sorted_perm _

theorem mem_variadicOverloads_iff : o ∈ r.variadicOverloads op ↔ o ∈ r.tables.variadic.get op :=
  (variadicOverloads_perm r op).mem_iff

/-- A query selects the overload that accepts its type and count. -/
theorem resolveVariadic_eq_ok_iff {log : List Registration} (h : r.tables.Holds log)
    (hc : Consistent log) :
    (r.resolveVariadic op operand count).result = .ok o ↔
      o ∈ r.variadicOverloads op ∧ o.signature.accepts operand count := by
  have hresolve : (r.resolve (.variadic op operand count)).result = .ok (.variadic o) ↔
      (r.resolveVariadic op operand count).result = .ok o := by
    simp [resolve, Traced.result_map, except_map_eq_ok_iff]
  have hlisted : o ∈ r.variadicOverloads op ↔ .variadic o ∈ log ∧ o.operator = op := by
    have hmem : Registration.variadic o ∈ r.overloads (.variadic op) ↔
        .variadic o ∈ log ∧ (Registration.variadic o).operator = .variadic op := mem_overloads_iff h
    simpa [overloads, Registration.operator] using hmem
  rw [← hresolve, resolve_eq_ok_iff_fits h hc, hlisted]
  simp [Registration.fits, Registration.toVariadic?, and_assoc]

/-! ### Calls without operands -/

section Nullary

variable {os : List VariadicOverload}

theorem selectNullary_of_one (h : os.filter (·.signature.arity.contains 0) = [o]) :
    selectNullary op os = pure o := by
  simp only [selectNullary, h]

theorem selectNullary_of_none (h : os.filter (·.signature.arity.contains 0) = []) (hne : os ≠ []) :
    selectNullary op os =
      .fail (.arityMismatch (.variadic op) (expectedText (os.map (·.signature.arity))) 0)
        [.nullaryMismatch op] := by
  simp [selectNullary, h, hne]

theorem selectNullary_of_several {p : VariadicOverload} {rest : List VariadicOverload}
    (h : os.filter (·.signature.arity.contains 0) = o :: p :: rest) :
    selectNullary op os = .fail (.noMatchingOverload (.variadic op) "()") [] := by
  simp [selectNullary, h]

/-- Overloads that accept no argument and do not conflict are of different types. -/
theorem pairwise_operand_ne (h : os.Pairwise fun o p =>
      o.signature.operand = p.signature.operand →
        ∀ count, ¬(o.signature.arity.contains count ∧ p.signature.arity.contains count)) :
    (os.filter (·.signature.arity.contains 0)).Pairwise fun o p =>
      o.signature.operand ≠ p.signature.operand := by
  refine (h.filter _).imp_of_mem fun {o p} ho hp hop hsame => ?_
  exact hop hsame 0 ⟨(List.mem_filter.1 ho).2, (List.mem_filter.1 hp).2⟩

end Nullary

/-- Whether the operator has an overload for no argument of the type. -/
def AcceptsNone (r : Registry) (op : VariadicOperator) (operand : LogicalType) : Prop :=
  ∃ o, (r.resolveVariadic op operand 0).result = .ok o

theorem resolveVariadic_zero_eq_ok_iff {log : List Registration} (h : r.tables.Holds log)
    (hc : Consistent log) :
    (r.resolveVariadic op operand 0).result = .ok o ↔
      o ∈ (r.tables.variadic.get op).filter (·.signature.arity.contains 0) ∧
        o.signature.operand = operand := by
  rw [resolveVariadic_eq_ok_iff h hc, mem_variadicOverloads_iff, List.mem_filter]
  simp [VariadicSignature.accepts, and_assoc, and_comm]

/-! ### Operands of one type and of several -/

theorem resolveOperands_of_mixed (r : Registry) (op : VariadicOperator) {operands : List Batch}
    (h : ∃ v ∈ operands, ∃ w ∈ operands, v.type ≠ w.type) :
    r.resolveOperands op operands =
      .fail (.noMatchingOverload (.variadic op) (", ".intercalate (operands.map (·.type.name)))) []
      := by
  obtain ⟨v, hv, w, hw, hne⟩ := h
  match operands with
  | [] => cases hv
  | first :: rest =>
    have hmixed : ¬(first :: rest).all (·.type = first.type) := fun hall => by
      simp only [List.all_eq_true, decide_eq_true_eq] at hall
      exact hne ((hall v hv).trans (hall w hw).symm)
    simp only [resolveOperands, hmixed, Bool.false_eq_true, if_false]

theorem resolveOperands_of_same (r : Registry) (op : VariadicOperator) {operands : List Batch}
    (hne : operands ≠ []) (h : ∀ v ∈ operands, v.type = operand) :
    r.resolveOperands op operands = r.resolveVariadic op operand operands.length := by
  match operands with
  | [] => exact absurd rfl hne
  | first :: rest =>
    obtain rfl := h first List.mem_cons_self
    have hall : (first :: rest).all (·.type = first.type) := by simpa using h
    simp only [resolveOperands, hall, if_true]

theorem invokeVariadic_eq (r : Registry) (op : VariadicOperator) (operands : List Batch) :
    r.invokeVariadic op operands =
      ⟨(r.resolveOperands op operands).events, (r.resolveOperands op operands).result.bind fun o =>
        (o.kernel operands).bind (r.checkReturnType (.variadic op) o.returns)⟩ :=
  Traced.bind_ofExcept ..

theorem result_invokeVariadic_nil (r : Registry) (op : VariadicOperator) :
    (r.invokeVariadic op []).result = (r.resolveNullary op).result.bind fun o =>
      (o.kernel []).bind (r.checkReturnType (.variadic op) o.returns) :=
  congrArg Traced.result (r.invokeVariadic_eq op [])

end Registry

/-! ### All calls -/

namespace Builder

variable {b : Builder} {log : List Registration}

/-- What a variadic call without operands selects, by the types of which no argument is accepted. -/
theorem Reached.nullary_cases (h : Reached b log) (op : VariadicOperator) :
    let r := b.freeze.1
    (∃ o, (∀ operand, r.AcceptsNone op operand ↔ operand = o.signature.operand) ∧
      (r.resolveVariadic op o.signature.operand 0).result = .ok o ∧
      r.resolveNullary op = pure o) ∨
    ((∀ operand, ¬r.AcceptsNone op operand) ∧ r.variadicOverloads op ≠ [] ∧
      r.resolveNullary op = .fail (.arityMismatch (.variadic op)
        (expectedText ((r.variadicOverloads op).map (·.signature.arity))) 0)
        [.nullaryMismatch op]) ∨
    ((∀ operand, ¬r.AcceptsNone op operand) ∧ r.variadicOverloads op = [] ∧
      r.resolveNullary op = .fail (.noMatchingOverload (.variadic op) "()") []) ∨
    ((∃ s t, s ≠ t ∧ r.AcceptsNone op s ∧ r.AcceptsNone op t) ∧
      r.resolveNullary op = .fail (.noMatchingOverload (.variadic op) "()") []) := by
  intro r
  have hresolve {operand : LogicalType} {o : VariadicOverload} :
      (r.resolveVariadic op operand 0).result = .ok o ↔
        o ∈ (r.tables.variadic.get op).filter (·.signature.arity.contains 0) ∧
          o.signature.operand = operand :=
    Registry.resolveVariadic_zero_eq_ok_iff h.records.holds h.records.consistent
  have haccepts (operand : LogicalType) : r.AcceptsNone op operand ↔
      ∃ o ∈ (r.tables.variadic.get op).filter (·.signature.arity.contains 0),
        o.signature.operand = operand := by
    simp only [Registry.AcceptsNone, hresolve]
  have hapart : ((r.tables.variadic.get op).filter (·.signature.arity.contains 0)).Pairwise
      fun o p => o.signature.operand ≠ p.signature.operand :=
    Registry.pairwise_operand_ne (h.records.tables_unambiguous.disjoint op)
  have hlist := Registry.variadicOverloads_perm r op
  match hfilter : (r.tables.variadic.get op).filter (·.signature.arity.contains 0) with
  | [o] =>
    refine .inl ⟨o, fun operand => ?_, ?_, Registry.selectNullary_of_one hfilter⟩
    · rw [haccepts, hfilter]
      simp [eq_comm]
    · rw [hresolve, hfilter]
      simp
  | [] =>
    have hnone (operand : LogicalType) : ¬r.AcceptsNone op operand := by
      rw [haccepts, hfilter]
      simp
    by_cases hnil : r.tables.variadic.get op = []
    · refine .inr (.inr (.inl ⟨hnone, (hnil ▸ hlist).eq_nil, ?_⟩))
      rw [Registry.resolveNullary, hnil]
      rfl
    · refine .inr (.inl ⟨hnone, fun hlisted => hnil (hlisted ▸ hlist).nil_eq.symm, ?_⟩)
      rw [expectedText_eq_of_perm (hlist.map (·.signature.arity))]
      exact Registry.selectNullary_of_none hfilter hnil
  | o :: p :: rest =>
    have hne : o.signature.operand ≠ p.signature.operand := by
      rw [hfilter] at hapart
      exact List.rel_of_pairwise_cons hapart List.mem_cons_self
    refine .inr (.inr (.inr ⟨⟨_, _, hne, ?_, ?_⟩, Registry.selectNullary_of_several hfilter⟩))
    · rw [haccepts, hfilter]
      exact ⟨o, by simp, rfl⟩
    · rw [haccepts, hfilter]
      exact ⟨p, by simp, rfl⟩

/-- A call without operands selects an overload if one type is accepted, that of the type. -/
theorem Reached.resolveNullary_eq_ok_iff (h : Reached b log) {op : VariadicOperator}
    {o : VariadicOverload} :
    let r := b.freeze.1
    (r.resolveNullary op).result = .ok o ↔ (∃! operand, r.AcceptsNone op operand) ∧
      ∃ operand, (r.resolveVariadic op operand 0).result = .ok o := by
  intro r
  rcases h.nullary_cases op with
    ⟨p, haccepts, hp, hselect⟩ | ⟨hnone, -, hselect⟩ | ⟨hnone, -, hselect⟩ |
      ⟨⟨s, t, hne, hs, ht⟩, hselect⟩
  · rw [hselect]
    constructor
    · intro ho
      obtain rfl := Except.ok.inj ho
      exact ⟨⟨_, (haccepts _).2 rfl, fun operand => (haccepts operand).1⟩, _, hp⟩
    · rintro ⟨-, operand, ho⟩
      obtain rfl := (haccepts operand).1 ⟨o, ho⟩
      exact hp.symm.trans ho
  · rw [hselect]
    exact iff_of_false nofun fun ⟨⟨operand, haccepted, _⟩, _⟩ => hnone operand haccepted
  · rw [hselect]
    exact iff_of_false nofun fun ⟨⟨operand, haccepted, _⟩, _⟩ => hnone operand haccepted
  · rw [hselect]
    exact iff_of_false nofun fun ⟨⟨_, _, hunique⟩, _⟩ =>
      hne ((hunique s hs).trans (hunique t ht).symm)

theorem Reached.resolveNullary_of_none (h : Reached b log) {op : VariadicOperator} :
    let r := b.freeze.1
    (∀ operand, ¬r.AcceptsNone op operand) → r.variadicOverloads op ≠ [] →
      (r.resolveNullary op).result = .error (.arityMismatch (.variadic op)
        (expectedText ((r.variadicOverloads op).map (·.signature.arity))) 0) := by
  intro r hnone hlisted
  rcases h.nullary_cases op with
    ⟨p, haccepts, -, -⟩ | ⟨-, -, hselect⟩ | ⟨-, hnil, -⟩ | ⟨⟨s, _, _, hs, _⟩, -⟩
  · exact absurd ((haccepts _).2 rfl) (hnone _)
  · rw [hselect]
    rfl
  · exact absurd hnil hlisted
  · exact absurd hs (hnone s)

theorem Reached.resolveNullary_of_several (h : Reached b log) {op : VariadicOperator} :
    let r := b.freeze.1
    (r.variadicOverloads op = [] ∨ ∃ s t, s ≠ t ∧ r.AcceptsNone op s ∧ r.AcceptsNone op t) →
      (r.resolveNullary op).result = .error (.noMatchingOverload (.variadic op) "()") := by
  rintro r hseveral
  rcases h.nullary_cases op with
    ⟨p, haccepts, hp, -⟩ | ⟨hnone, hlisted, -⟩ | ⟨-, -, hselect⟩ | ⟨-, hselect⟩
  · rcases hseveral with hnil | ⟨s, t, hne, hs, ht⟩
    · have hlisted := ((Registry.resolveVariadic_eq_ok_iff h.records.holds
        h.records.consistent).1 hp).1
      rw [hnil] at hlisted
      cases hlisted
    · exact absurd (((haccepts s).1 hs).trans ((haccepts t).1 ht).symm) hne
  · rcases hseveral with hnil | ⟨s, _, _, hs, _⟩
    · exact absurd hnil hlisted
    · exact absurd hs (hnone s)
  · rw [hselect]
    rfl
  · rw [hselect]
    rfl

/-- What becomes of a variadic call, for operands of several types, of one type, and for none. -/
theorem Reached.variadic_cases (h : Reached b log) (op : VariadicOperator)
    (operands : List Batch) :
    let r := b.freeze.1
    -- operands of several types
    ((∃ v ∈ operands, ∃ w ∈ operands, v.type ≠ w.type) → ∀ r' : Registry,
      r'.invokeVariadic op operands = .fail (.noMatchingOverload (.variadic op)
        (", ".intercalate (operands.map (·.type.name)))) []) ∧
    -- operands of one type
    (∀ operand, operands ≠ [] → (∀ v ∈ operands, v.type = operand) →
      (∀ failure, (r.resolveVariadic op operand operands.length).result = .error failure →
        (r.invokeVariadic op operands).result = .error failure) ∧
      ∀ o, (r.resolveVariadic op operand operands.length).result = .ok o →
        (r.invokeVariadic op operands).result =
          (o.kernel operands).bind (r.checkReturnType (.variadic op) o.returns)) ∧
    -- no operands
    (operands = [] →
      (∀ o, (r.select (.variadic op operands)).result = .ok (.variadic o) ↔
        (∃! operand, r.AcceptsNone op operand) ∧
          ∃ operand, (r.resolveVariadic op operand 0).result = .ok o) ∧
      (∀ o, (r.select (.variadic op operands)).result = .ok (.variadic o) →
        (r.invokeVariadic op operands).result =
          (o.kernel operands).bind (r.checkReturnType (.variadic op) o.returns)) ∧
      ((∀ operand, ¬r.AcceptsNone op operand) → r.variadicOverloads op ≠ [] →
        (r.invokeVariadic op operands).result = .error (.arityMismatch (.variadic op)
          (expectedText ((r.variadicOverloads op).map (·.signature.arity))) 0)) ∧
      ((r.variadicOverloads op = [] ∨
          ∃ s t, s ≠ t ∧ r.AcceptsNone op s ∧ r.AcceptsNone op t) →
        (r.invokeVariadic op operands).result =
          .error (.noMatchingOverload (.variadic op) "()"))) := by
  intro r
  refine ⟨fun hmixed r' => ?_, fun operand hne hsame => ?_, ?_⟩
  · rw [Registry.invokeVariadic_eq, r'.resolveOperands_of_mixed op hmixed]
    rfl
  · rw [Registry.invokeVariadic_eq, r.resolveOperands_of_same op hne hsame]
    refine ⟨fun failure hfailure => ?_, fun o ho => ?_⟩
    · rw [hfailure]
      rfl
    · rw [ho]
      rfl
  · rintro rfl
    have hselect (o : VariadicOverload) :
        (r.select (.variadic op [])).result = .ok (.variadic o) ↔
          (r.resolveNullary op).result = .ok o := by
      simp [Registry.select, Registry.resolveOperands, Traced.result_map, except_map_eq_ok_iff]
    have hinvoke := r.result_invokeVariadic_nil op
    refine ⟨fun o => (hselect o).trans h.resolveNullary_eq_ok_iff, fun o ho => ?_,
      fun hnone hlisted => ?_, fun hseveral => ?_⟩
    · rw [hinvoke, (hselect o).1 ho]
      rfl
    · rw [hinvoke, h.resolveNullary_of_none hnone hlisted]
      rfl
    · rw [hinvoke, h.resolveNullary_of_several hseveral]
      rfl

/-- Two types of which no argument is accepted, in an operator without operands. -/
theorem variadic_cases_of_two_types :
    let integers : Registration :=
      .variadic ⟨.coalesce, ⟨.int64, .atLeast 0⟩, .int64, Kernel.coalesce⟩
    let texts : Registration :=
      .variadic ⟨.coalesce, ⟨.string, .between 0 2⟩, .string, Kernel.coalesce⟩
    let r := ((empty.register integers).builder.register texts).builder.freeze.1
    r.AcceptsNone .coalesce .int64 ∧ r.AcceptsNone .coalesce .string ∧
      (r.invokeVariadic .coalesce []).result =
        .error (.noMatchingOverload (.variadic .coalesce) "()") := by
  intro integers texts r
  have hb : Reached ((empty.register integers).builder.register texts).builder [integers, texts] :=
    .register (.register (.start {}) integers) texts
  have hintegers : r.AcceptsNone .coalesce .int64 := ⟨_, rfl⟩
  have htexts : r.AcceptsNone .coalesce .string := ⟨_, rfl⟩
  obtain ⟨-, -, hnone⟩ := hb.variadic_cases .coalesce []
  obtain ⟨-, -, -, hseveral⟩ := hnone rfl
  exact ⟨hintegers, htexts, hseveral (.inr ⟨_, _, by decide, hintegers, htexts⟩)⟩

end Builder

end ColumnDispatch
