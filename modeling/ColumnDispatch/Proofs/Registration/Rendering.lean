import ColumnDispatch.Proofs.Invocation.Transparency
import ColumnDispatch.Proofs.Registration.Atomicity
import ColumnDispatch.Proofs.Registration.Introspection
import ColumnDispatch.Proofs.Texts
import Mathlib.Data.List.Nodup

/-! The rendered lines of overloads. A line ends with the type of the result; before it stands the
call, where only a variadic one has a parenthesis and only a unary one begins with the operator.
Main statements: a line determines the overload but for its kernel, whatever its class and bounds;
no two lines of a registry are the same; and the text of a conflict determines both signatures. -/

namespace ColumnDispatch

namespace Registration

variable {r s : Registration}

/-- The line without the type of the result. -/
def renderCall : Registration → String
  | unary o => o.operator.name ++ " " ++ o.signature.operand.name
  | binary o =>
    o.signature.left.name ++ " " ++ o.operator.name ++ " " ++ o.signature.right.name
  | variadic o =>
    o.operator.name ++ "(" ++ o.signature.operand.name ++ ", ...) [" ++
      toString o.signature.arity ++ "]"

theorem render_eq (r : Registration) : r.render = r.renderCall ++ " -> " ++ r.returns.name := by
  cases r <;> rfl

/-! ### Letters of the parts -/

theorem space_not_mem_unary (op : UnaryOperator) : ' ' ∉ op.name.toList := by
  cases op <;> decide

theorem unary_name_ne (op : UnaryOperator) (t : LogicalType) : op.name ≠ t.name := by
  cases op <;> cases t <;> decide

theorem parenthesis_not_mem_name (op : Operator) : '(' ∉ op.name.toList := by
  cases op with
  | unary op => cases op <;> decide
  | binary op => cases op <;> decide
  | variadic op => cases op <;> decide

theorem comma_not_mem_variadic (op : VariadicOperator) : ',' ∉ op.name.toList := by
  cases op <;> decide

/-- The calls with a parenthesis are those of the variadic operators. -/
theorem parenthesis_mem_renderCall_iff : '(' ∈ r.renderCall.toList ↔ ∃ o, r = .variadic o := by
  have hname (t : LogicalType) : '(' ∉ t.name.toList := t.not_mem_name rfl
  cases r with
  | unary o =>
    have hop : '(' ∉ o.operator.name.toList := parenthesis_not_mem_name (.unary o.operator)
    simp [renderCall, String.toList_append, hname, hop]
  | binary o =>
    have hop : '(' ∉ o.operator.name.toList := parenthesis_not_mem_name (.binary o.operator)
    simp [renderCall, String.toList_append, hname, hop]
  | variadic o => simp [renderCall, String.toList_append]

/-! ### Calls -/

theorem unary_call_injective {op op' : UnaryOperator} {t t' : LogicalType}
    (h : op.name ++ " " ++ t.name = op'.name ++ " " ++ t'.name) : op = op' ∧ t = t' := by
  obtain ⟨hop, ht⟩ := append_injective_of_first [] ' ' rfl List.not_mem_nil
    (space_not_mem_unary op) (space_not_mem_unary op') h
  exact ⟨UnaryOperator.name_injective hop, LogicalType.name_injective ht⟩

/-- The operator may have a space in it, so it is what is left of the types around it. -/
theorem binary_call_injective {op op' : BinaryOperator} {t t' u u' : LogicalType}
    (h : t.name ++ " " ++ op.name ++ " " ++ u.name = t'.name ++ " " ++ op'.name ++ " " ++ u'.name) :
    t = t' ∧ op = op' ∧ u = u' := by
  have hspace (t : LogicalType) : ' ' ∉ t.name.toList := t.not_mem_name rfl
  obtain ⟨hinit, hu⟩ := append_injective_of_last [] ' ' rfl List.not_mem_nil
    (hspace u) (hspace u') h
  obtain ⟨ht, hop⟩ := append_injective_of_first [] ' ' rfl List.not_mem_nil
    (hspace t) (hspace t') hinit
  exact ⟨LogicalType.name_injective ht, BinaryOperator.name_injective hop,
    LogicalType.name_injective hu⟩

/-- The first word tells a unary operator from the left type of a binary one. -/
theorem unary_call_ne_binary (op : UnaryOperator) (op' : BinaryOperator) (t u v : LogicalType) :
    op.name ++ " " ++ t.name ≠ u.name ++ " " ++ op'.name ++ " " ++ v.name := by
  intro h
  have hwords : op.name ++ " " ++ t.name = u.name ++ " " ++ (op'.name ++ " " ++ v.name) := by
    simpa only [String.append_assoc] using h
  exact unary_name_ne op u (append_injective_of_first [] ' ' rfl
    List.not_mem_nil (space_not_mem_unary op) (u.not_mem_name rfl) hwords).1

theorem variadic_call_injective {op op' : VariadicOperator} {t t' : LogicalType} {a a' : Arity}
    (h : op.name ++ "(" ++ t.name ++ ", ...) [" ++ toString a ++ "]" =
      op'.name ++ "(" ++ t'.name ++ ", ...) [" ++ toString a' ++ "]") :
    op = op' ∧ t = t' ∧ a = a' := by
  have hcomma (op : VariadicOperator) (t : LogicalType) :
      ',' ∉ (op.name ++ "(" ++ t.name).toList := by
    simp [String.toList_append, comma_not_mem_variadic op, t.not_mem_name (c := ',') rfl]
  rw [String.append_left_inj] at h
  obtain ⟨hinit, ha⟩ := append_injective_of_first [] ',' rfl
    List.not_mem_nil (hcomma op t) (hcomma op' t') h
  obtain ⟨hop, ht⟩ := append_injective_of_first [] '(' rfl
    List.not_mem_nil (parenthesis_not_mem_name (.variadic op))
    (parenthesis_not_mem_name (.variadic op')) hinit
  exact ⟨VariadicOperator.name_injective hop, LogicalType.name_injective ht,
    Arity.toString_injective ha⟩

theorem variadic_of_renderCall_eq {o : VariadicOverload}
    (h : r.renderCall = (variadic o).renderCall) : ∃ p, r = .variadic p :=
  parenthesis_mem_renderCall_iff.1 (h ▸ parenthesis_mem_renderCall_iff.2 ⟨o, rfl⟩)

/-- A line determines the overload, but for its kernel. -/
theorem bare_eq_of_render (h : r.render = s.render) : r.bare = s.bare := by
  rw [render_eq, render_eq] at h
  obtain ⟨hcall, hreturns⟩ := append_injective_of_last [' ', '-', '>'] ' ' rfl List.not_mem_nil
    (r.returns.not_mem_name rfl) (s.returns.not_mem_name rfl) h
  have hreturns := LogicalType.name_injective hreturns
  cases r with
  | unary o =>
    cases s with
    | unary p =>
      obtain ⟨hoperator, hoperand⟩ := unary_call_injective hcall
      exact congrArg unary
        (Overload.withKernel_eq hoperator (UnarySignature.ext hoperand) hreturns)
    | binary p => exact (unary_call_ne_binary _ _ _ _ _ hcall).elim
    | variadic p => exact nomatch variadic_of_renderCall_eq hcall
  | binary o =>
    cases s with
    | unary p => exact (unary_call_ne_binary _ _ _ _ _ hcall.symm).elim
    | binary p =>
      obtain ⟨hleft, hoperator, hright⟩ := binary_call_injective hcall
      exact congrArg binary
        (Overload.withKernel_eq hoperator (BinarySignature.ext hleft hright) hreturns)
    | variadic p => exact nomatch variadic_of_renderCall_eq hcall
  | variadic o =>
    cases s with
    | unary p => exact nomatch variadic_of_renderCall_eq hcall.symm
    | binary p => exact nomatch variadic_of_renderCall_eq hcall.symm
    | variadic p =>
      obtain ⟨hoperator, hoperand, harity⟩ := variadic_call_injective hcall
      exact congrArg variadic
        (Overload.withKernel_eq hoperator (VariadicSignature.ext hoperand harity) hreturns)

theorem precedes_bare_iff : r.bare.Precedes s.bare ↔ r.Precedes s := by
  cases r <;> cases s <;> rfl

theorem not_precedes_self (r : Registration) : ¬r.Precedes r := by
  cases r with
  | unary o => exact Nat.lt_irrefl _
  | binary o =>
    rintro (hleft | ⟨-, hright⟩)
    · exact Nat.lt_irrefl _ hleft
    · exact Nat.lt_irrefl _ hright
  | variadic o =>
    rintro (hoperand | ⟨-, harity⟩)
    · exact Nat.lt_irrefl _ hoperand
    · exact Std.Irrefl.irrefl _ harity

/-- Overloads in strict order have different lines. -/
theorem Precedes.render_ne (h : r.Precedes s) : r.render ≠ s.render := by
  intro hrender
  have hbare := precedes_bare_iff.2 h
  rw [bare_eq_of_render hrender] at hbare
  exact not_precedes_self _ hbare

theorem operator_eq_of_render (h : r.render = s.render) : r.operator = s.operator := by
  have hbare (r : Registration) : r.bare.operator = r.operator := by cases r <;> rfl
  rw [← hbare r, bare_eq_of_render h, hbare]

end Registration

open Registration

/-! ### Lines of a registry -/

namespace Registry

variable {r : Registry} {log : List Registration} {op : Operator} {line : String}

theorem mem_describe_iff (h : r.tables.Holds log) :
    line ∈ r.describe op ↔ ∃ p ∈ log, p.operator = op ∧ p.render = line := by
  simp only [describe_eq, List.mem_map, mem_overloads_iff h, and_assoc]

/-- No two lines of a registry are the same, be they of one operator or of two. -/
theorem nodup_describe (h : r.tables.Holds log) (hc : Consistent log) :
    (Operator.all.flatMap r.describe).Nodup := by
  refine List.nodup_flatMap.2 ⟨fun op _ => ?_, Operator.nodup_all.imp fun {op op'} hne => ?_⟩
  · rw [describe_eq]
    exact List.pairwise_map.2 ((pairwise_overloads h hc op).imp Precedes.render_ne)
  · intro line hline hline'
    obtain ⟨p, -, hp, hrender⟩ := (mem_describe_iff h).1 hline
    obtain ⟨p', -, hp', hrender'⟩ := (mem_describe_iff h).1 hline'
    exact hne (hp.symm.trans ((operator_eq_of_render (hrender.trans hrender'.symm)).trans hp'))

end Registry

namespace Builder

variable {b : Builder} {log : List Registration}

/-- The text of a conflict names the new signature and that of an accepted overload. -/
theorem Records.duplicate_text (h : Records b log) {o : VariadicOverload} {op : Operator}
    {text : String}
    (hfailure : (b.register (.variadic o)).failure? = some (.duplicateSignature op text)) :
    ∃ p, .variadic p ∈ log ∧ text = s!"{o.signature} overlaps {p.signature}" := by
  rcases h.failure_cases hfailure with
    ⟨_, _, -, -, -, hinvalid⟩ | ⟨-, earlier, p, later, hlog, -, hconflict, hduplicate⟩
  · cases hinvalid
  · obtain ⟨p, rfl, -⟩ := conflicts_variadic_iff.1 hconflict
    refine ⟨p, by simp [hlog], ?_⟩
    exact (Failure.duplicateSignature.inj hduplicate).2

/-- What can be read back from a rendered overload and from the text of a conflict. -/
theorem Reached.lines_identify (h : Reached b log) :
    let r := b.freeze.1
    -- a line determines the class, the operator, the signature and the type of the result
    (∀ p q : Registration, p.render = q.render → p.bare = q.bare) ∧
    -- the lines of all operators
    (Operator.all.flatMap r.describe).Nodup ∧
    (∀ op line, line ∈ r.describe op ↔ ∃ p ∈ log, p.operator = op ∧ p.render = line) ∧
    -- a text determines the type and the range
    (∀ s t : VariadicSignature, toString s = toString t →
      s.operand = t.operand ∧ s.arity = t.arity) ∧
    -- the text of a conflict
    ∀ o op text, (b.register (.variadic o)).failure? = some (.duplicateSignature op text) →
      ∃ p, .variadic p ∈ log ∧ text = s!"{o.signature} overlaps {p.signature}" ∧
        ∀ s t : VariadicSignature, text = s!"{s} overlaps {t}" →
          s = o.signature ∧ t = p.signature := by
  have hholds := h.records.holds
  refine ⟨fun p q => bare_eq_of_render, Registry.nodup_describe hholds h.records.consistent,
    fun op line => Registry.mem_describe_iff hholds, fun s t hsame => ?_,
    fun o op text hfailure => ?_⟩
  · rw [VariadicSignature.toString_injective hsame]
    exact ⟨rfl, rfl⟩
  · obtain ⟨p, hp, rfl⟩ := h.records.duplicate_text hfailure
    exact ⟨p, hp, rfl, fun s t hsame => VariadicSignature.overlaps_injective hsame.symm⟩

/-- Two operators with one name, and a range within another one. -/
theorem lines_identify_of_shared_name :
    let negation : Registration := .unary ⟨.negate, ⟨.int64⟩, .int64, Kernel.negate⟩
    let difference : Registration :=
      .binary ⟨.minus, ⟨.int64, .int64⟩, .int64, fun left _ => .ok left⟩
    let few : VariadicOverload := ⟨.concat, ⟨.string, .between 0 2⟩, .string, Kernel.concat⟩
    let two : VariadicOverload := ⟨.concat, ⟨.string, .exactly 2⟩, .string, Kernel.concat⟩
    let b := empty.run [negation, difference, .variadic few]
    (Operator.all.flatMap b.freeze.1.describe).Nodup ∧
      ∃ text, (b.register (.variadic two)).failure? =
          some (.duplicateSignature (.variadic .concat) text) ∧
        ∀ s t : VariadicSignature, text = s!"{s} overlaps {t}" →
          s = two.signature ∧ t = few.signature := by
  intro negation difference few two b
  have hb : Reached b [negation, difference, .variadic few] :=
    .register (.register (.register (.start {}) negation) difference) (.variadic few)
  obtain ⟨-, hlines, -, -, hconflict⟩ := hb.lines_identify
  have hfailure : (b.register (.variadic two)).failure? =
      some (.duplicateSignature (.variadic .concat) s!"{two.signature} overlaps {few.signature}") :=
    rfl
  refine ⟨hlines, _, hfailure, ?_⟩
  obtain ⟨p, hp, -, hread⟩ := hconflict two _ _ hfailure
  have hfew : p = few := by simpa [negation, difference] using hp
  rw [hfew] at hread
  exact hread

end Builder

end ColumnDispatch
