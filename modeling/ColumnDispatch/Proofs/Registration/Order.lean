import ColumnDispatch.Proofs.Registration.Unambiguity
import ColumnDispatch.Registry.Invoke
import ColumnDispatch.Registry.Listing

/-! The order of registration is not seen. The same registrations in another order leave the same
overloads in each slot in another order. At most one of them fits a call and no two share a
signature, so searches find the same overload, and sorted lists and texts come out the same. -/

namespace ColumnDispatch

/-! ### Slots in another order -/

/-- The slots have the same overloads, in any order. -/
structure Tables.Perm (t t' : Tables) : Prop where
  unary : ∀ op, (t.unary.get op).entries.Perm (t'.unary.get op).entries
  binary : ∀ op, (t.binary.get op).entries.Perm (t'.binary.get op).entries
  variadic : ∀ op, (t.variadic.get op).Perm (t'.variadic.get op)

theorem FixedSlots.Holds.perm {Op Sig Kernel : Type} [Catalogue Op] [DecidableEq Op]
    {s s' : FixedSlots Op Sig Kernel} {log log' : List (Overload Op Sig Kernel)} (h : s.Holds log)
    (h' : s'.Holds log') (hp : log.Perm log') (op : Op) :
    (s.get op).entries.Perm (s'.get op).entries := by
  rw [h op, h' op]
  exact (hp.filter _).map _

theorem Tables.Holds.perm {t t' : Tables} {log log' : List Registration} (h : t.Holds log)
    (h' : t'.Holds log') (hp : log.Perm log') : t.Perm t' where
  unary := h.unary.perm h'.unary (hp.filterMap _)
  binary := h.binary.perm h'.binary (hp.filterMap _)
  variadic op := by
    rw [h.variadic op, h'.variadic op]
    exact (hp.filterMap _).filter _

namespace Keyed

variable {Key Rec : Type} {t t' : Keyed Key Rec}

theorem get?_eq_of_perm [DecidableEq Key] (hp : t.entries.Perm t'.entries) (k : Key) :
    t.get? k = t'.get? k := by
  have hone : (t.entries.filter (·.1 = k)).length ≤ 1 :=
    length_filter_le_one <| (List.pairwise_map.1 t.nodup_keys).imp fun hne hboth => by
      simp_all
  rw [get?, get?, find?_eq_of_perm hp hone]

theorem size_eq_of_perm (hp : t.entries.Perm t'.entries) : t.size = t'.size := hp.length_eq

theorem values_perm (hp : t.entries.Perm t'.entries) : t.values.Perm t'.values := hp.map _

end Keyed

namespace Tables.Perm

variable {t t' : Tables}

theorem unary_total (hp : t.Perm t') : t.unary.total Keyed.size = t'.unary.total Keyed.size :=
  Slots.total_congr fun op => Keyed.size_eq_of_perm (hp.unary op)

theorem binary_total (hp : t.Perm t') : t.binary.total Keyed.size = t'.binary.total Keyed.size :=
  Slots.total_congr fun op => Keyed.size_eq_of_perm (hp.binary op)

theorem variadic_total (hp : t.Perm t') :
    t.variadic.total List.length = t'.variadic.total List.length :=
  Slots.total_congr fun op => (hp.variadic op).length_eq

end Tables.Perm

/-! ### Lists in the order of their signatures -/

section Sorted

variable {Op Sig Kernel : Type} [Signature Sig] [Std.TransOrd Sig] [Std.LawfulEqOrd Sig]
  {os os' : List (Overload Op Sig Kernel)}

theorem Overload.sorted_eq_of_perm (hp : os.Perm os')
    (hinj : ∀ o ∈ os, ∀ p ∈ os, o.signature = p.signature → o = p) :
    Overload.sorted os = Overload.sorted os' :=
  mergeSort_eq_of_perm Overload.signature hp hinj

end Sorted

namespace Tables.Unambiguous

variable {t : Tables}

theorem unary_injective (h : t.Unambiguous) (op : UnaryOperator) :
    ∀ o ∈ (t.unary.get op).values, ∀ p ∈ (t.unary.get op).values,
      o.signature = p.signature → o = p := fun o ho p hp hsig =>
  eq_of_length_filter_le_one (h.unary_one op o.signature.operand) ho hp (by simp) (by simp [hsig])

theorem binary_injective (h : t.Unambiguous) (op : BinaryOperator) :
    ∀ o ∈ (t.binary.get op).values, ∀ p ∈ (t.binary.get op).values,
      o.signature = p.signature → o = p := fun o ho p hp hsig =>
  eq_of_length_filter_le_one (h.binary_one op o.signature.left o.signature.right) ho hp (by simp)
    (by simp [hsig])

theorem variadic_injective (h : t.Unambiguous) (op : VariadicOperator) :
    ∀ o ∈ t.variadic.get op, ∀ p ∈ t.variadic.get op, o.signature = p.signature → o = p := by
  intro o ho p hp hsig
  have hvalid : o.signature.arity.isValid := Arity.isValid_iff.2 (h.valid op o ho)
  have haccepts : o.signature.accepts o.signature.operand o.signature.arity.min := by
    simp [VariadicSignature.accepts, Arity.contains_min hvalid]
  exact eq_of_length_filter_le_one (h.variadic_one op o.signature.operand o.signature.arity.min)
    ho hp haccepts (hsig ▸ haccepts)

end Tables.Unambiguous

/-! ### Answers -/

/-- The registries cannot be told apart by anything that can be asked of them. -/
structure Registry.SameAnswers (r r' : Registry) : Prop where
  resolveUnary : ∀ op operand, r.resolveUnary op operand = r'.resolveUnary op operand
  resolveBinary : ∀ op left right, r.resolveBinary op left right = r'.resolveBinary op left right
  resolveVariadic : ∀ op operand count,
    r.resolveVariadic op operand count = r'.resolveVariadic op operand count
  invokeUnary : ∀ op operand, r.invokeUnary op operand = r'.invokeUnary op operand
  invokeBinary : ∀ op left right, r.invokeBinary op left right = r'.invokeBinary op left right
  invokeVariadic : ∀ op operands, r.invokeVariadic op operands = r'.invokeVariadic op operands
  parInvokeUnary : ∀ op schedule batches,
    r.parInvokeUnary op schedule batches = r'.parInvokeUnary op schedule batches
  parInvokeBinary : ∀ op schedule pairs,
    r.parInvokeBinary op schedule pairs = r'.parInvokeBinary op schedule pairs
  unaryOverloads : ∀ op, r.unaryOverloads op = r'.unaryOverloads op
  binaryOverloads : ∀ op, r.binaryOverloads op = r'.binaryOverloads op
  variadicOverloads : ∀ op, r.variadicOverloads op = r'.variadicOverloads op
  describe : ∀ op, r.describe op = r'.describe op
  size : r.size = r'.size
  isEmpty : r.isEmpty = r'.isEmpty

namespace Registry

theorem selectNullary_eq_of_perm {op : VariadicOperator} {os os' : List VariadicOverload}
    (hp : os.Perm os') : selectNullary op os = selectNullary op os' := by
  have haccepting := hp.filter (·.signature.arity.contains 0)
  have hranges := expectedText_eq_of_perm (hp.map (·.signature.arity))
  simp only [selectNullary, hranges, hp.isEmpty_eq]
  generalize os.filter (·.signature.arity.contains 0) = l at haccepting ⊢
  generalize os'.filter (·.signature.arity.contains 0) = l' at haccepting ⊢
  match l, l', haccepting with
  | [], _, h => rw [h.nil_eq]
  | [_], _, h => rw [List.singleton_perm.1 h]
  | _ :: _ :: _, [], h => simp at h
  | _ :: _ :: _, [_], h => simpa using h.length_eq
  | _ :: _ :: _, _ :: _ :: _, _ => rfl

variable {r r' : Registry}

theorem sameAnswers_of_perm (hp : r.tables.Perm r'.tables) (hu : r.tables.Unambiguous)
    (hverify : r.verifyReturnType = r'.verifyReturnType) : r.SameAnswers r' := by
  have hunary (op : UnaryOperator) (operand : LogicalType) :
      r.resolveUnary op operand = r'.resolveUnary op operand := by
    simp only [resolveUnary, Keyed.get?_eq_of_perm (hp.unary op)]
  have hbinary (op : BinaryOperator) (left right : LogicalType) :
      r.resolveBinary op left right = r'.resolveBinary op left right := by
    simp only [resolveBinary, Keyed.get?_eq_of_perm (hp.binary op)]
  have hvariadic (op : VariadicOperator) (operand : LogicalType) (count : Nat) :
      r.resolveVariadic op operand count = r'.resolveVariadic op operand count :=
    selectVariadic_eq_of_perm (hp.variadic op) (hu.variadic_one op operand count)
  have hnullary (op : VariadicOperator) : r.resolveNullary op = r'.resolveNullary op :=
    selectNullary_eq_of_perm (hp.variadic op)
  have hoperands (op : VariadicOperator) (operands : List Batch) :
      r.resolveOperands op operands = r'.resolveOperands op operands := by
    cases operands with
    | nil => exact hnullary op
    | cons first rest => simp only [resolveOperands, hvariadic]
  have hcheck : r.checkReturnType = r'.checkReturnType := by
    funext op declared result
    simp only [checkReturnType, hverify]
  have hinvokeUnary (op : UnaryOperator) (operand : Batch) :
      r.invokeUnary op operand = r'.invokeUnary op operand := by
    simp only [invokeUnary, hunary, hcheck]
  have hinvokeBinary (op : BinaryOperator) (left right : Batch) :
      r.invokeBinary op left right = r'.invokeBinary op left right := by
    simp only [invokeBinary, hbinary, hcheck]
  have hlistUnary (op : UnaryOperator) : r.unaryOverloads op = r'.unaryOverloads op :=
    Overload.sorted_eq_of_perm (Keyed.values_perm (hp.unary op)) (hu.unary_injective op)
  have hlistBinary (op : BinaryOperator) : r.binaryOverloads op = r'.binaryOverloads op :=
    Overload.sorted_eq_of_perm (Keyed.values_perm (hp.binary op)) (hu.binary_injective op)
  have hlistVariadic (op : VariadicOperator) : r.variadicOverloads op = r'.variadicOverloads op :=
    Overload.sorted_eq_of_perm (hp.variadic op) (hu.variadic_injective op)
  have hsize : r.size = r'.size := by
    simp only [size, Tables.size, hp.unary_total, hp.binary_total, hp.variadic_total]
  refine ⟨hunary, hbinary, hvariadic, hinvokeUnary, hinvokeBinary, ?_, ?_, ?_, hlistUnary,
    hlistBinary, hlistVariadic, ?_, hsize, ?_⟩
  · exact fun op operands => by simp only [invokeVariadic, hoperands, hcheck]
  · exact fun op schedule batches => by simp only [parInvokeUnary, hinvokeUnary]
  · exact fun op schedule pairs => by simp only [parInvokeBinary, hinvokeBinary]
  · intro op
    cases op <;> simp only [describe, hlistUnary, hlistBinary, hlistVariadic]
  · simp only [isEmpty, hsize]

end Registry

/-! ### Runs in another order -/

namespace Builder

variable {b b' : Builder} {log log' calls calls' : List Registration}

/-- If all calls of a run are accepted, they are so in any other order, and the registry that comes
of it answers the same. Calls that came before the runs may be exchanged with those of the runs. -/
theorem Reached.order_unobservable (h : Reached b log) (h' : Reached b' log')
    (hverify : b.settings.verifyReturnType = b'.settings.verifyReturnType)
    (hp : (log ++ calls).Perm (log' ++ calls')) (hall : b.accepted calls = calls) :
    b'.accepted calls' = calls' ∧
      (b.run calls).freeze.1.SameAnswers (b'.run calls').freeze.1 ∧
      (b.run calls).freeze.2 = (b'.run calls').freeze.2 := by
  have hconsistent := (h.records.accepted_eq_self_iff.1 hall).perm hp
  have hall' := h'.records.accepted_eq_self_iff.2 hconsistent
  have hrun := h.records.run calls
  have hrun' := h'.records.run calls'
  rw [hall] at hrun
  rw [hall'] at hrun'
  have htables := hrun.holds.perm hrun'.holds hp
  refine ⟨hall', Registry.sameAnswers_of_perm htables hrun.tables_unambiguous ?_, ?_⟩
  · simp only [freeze, settings_run, hverify]
  · simp only [freeze, htables.unary_total, htables.binary_total, htables.variadic_total]

/-- Two ranges of a variadic operator and a unary overload between them, in two orders. -/
theorem order_unobservable_of_ranges :
    let few := .variadic ⟨.concat, ⟨.string, .between 0 2⟩, .string, Kernel.concat⟩
    let many := .variadic ⟨.concat, ⟨.string, .atLeast 3⟩, .string, Kernel.concat⟩
    let negation := .unary ⟨.negate, ⟨.int64⟩, .int64, Kernel.negate⟩
    empty.accepted [many, negation, few] = [many, negation, few] ∧
      (empty.run [few, negation, many]).freeze.1.SameAnswers
        (empty.run [many, negation, few]).freeze.1 := by
  intro few many negation
  have hnew : Reached empty [] := .start {}
  have hreversed : [few, negation, many].Perm [many, negation, few] :=
    (List.reverse_perm [many, negation, few])
  obtain ⟨hall, hsame, -⟩ := hnew.order_unobservable hnew rfl hreversed rfl
  exact ⟨hall, hsame⟩

end Builder

end ColumnDispatch
