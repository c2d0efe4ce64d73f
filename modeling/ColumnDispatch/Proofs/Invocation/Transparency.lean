import ColumnDispatch.Proofs.Invocation.Calls

/-! What an invocation adds to resolution. It runs one kernel, that of the selected overload, on the
operands as they are, passes its failure on, and at most replaces its batch by the failure of the
check. That no other kernel is run is said of two registries whose overloads differ in their kernels
only: a call tells them apart only if the selected kernels do so on its operands. What the check
does is said of two registries of the same registrations, one of which checks and one of which does
not. -/

namespace ColumnDispatch

/-! ### Registries of the same registrations -/

theorem Slots.ext_get {Op α : Type} [Catalogue Op] {s s' : Slots Op α}
    (h : ∀ op, s.get op = s'.get op) : s = s' := by
  obtain ⟨cells⟩ := s
  obtain ⟨cells'⟩ := s'
  have hlist : cells.toList = cells'.toList := by
    rw [toList_cells ⟨cells⟩, toList_cells ⟨cells'⟩, funext h]
  rw [Vector.toList_inj.1 hlist]

theorem FixedSlots.Holds.unique {Op Sig Kernel : Type} [Catalogue Op] [DecidableEq Op]
    {s s' : FixedSlots Op Sig Kernel} {log : List (Overload Op Sig Kernel)} (h : s.Holds log)
    (h' : s'.Holds log) : s = s' :=
  Slots.ext_get fun op => Keyed.ext ((h op).trans (h' op).symm)

theorem VariadicSlots.Holds.unique {s s' : VariadicSlots} {log : List VariadicOverload}
    (h : s.Holds log) (h' : s'.Holds log) : s = s' :=
  Slots.ext_get fun op => (h op).trans (h' op).symm

/-- A log leaves no choice for the tables that hold it. -/
theorem Tables.Holds.unique {t t' : Tables} {log : List Registration} (h : t.Holds log)
    (h' : t'.Holds log) : t = t' := by
  obtain ⟨unary, binary, variadic⟩ := t
  obtain ⟨unary', binary', variadic'⟩ := t'
  have hunary : unary = unary' := h.unary.unique h'.unary
  have hbinary : binary = binary' := h.binary.unique h'.binary
  have hvariadic : variadic = variadic' := h.variadic.unique h'.variadic
  rw [hunary, hbinary, hvariadic]

/-! ### Registries that differ in their kernels -/

def Overload.withKernel {Op Sig Kernel : Type} (kernel : Kernel) (o : Overload Op Sig Kernel) :
    Overload Op Sig Kernel :=
  { o with kernel }

theorem Overload.withKernel_eq {Op Sig Kernel : Type} {o p : Overload Op Sig Kernel}
    {kernel : Kernel} (hoperator : o.operator = p.operator) (hsignature : o.signature = p.signature)
    (hreturns : o.returns = p.returns) : o.withKernel kernel = p.withKernel kernel := by
  obtain ⟨operator, signature, returns, _⟩ := o
  subst hoperator hsignature hreturns
  rfl

namespace Registration

/-- The registration with a kernel that always fails in place of its own. Registrations that are the
same without their kernels differ in nothing else. -/
def bare : Registration → Registration
  | .unary o => .unary (o.withKernel fun _ => .error (.kernel ""))
  | .binary o => .binary (o.withKernel fun _ _ => .error (.kernel ""))
  | .variadic o => .variadic (o.withKernel fun _ => .error (.kernel ""))

@[simp] theorem returns_bare (r : Registration) : r.bare.returns = r.returns := by cases r <;> rfl

theorem map_bare_filterMap {α : Type} {toClass : Registration → Option α} {bareClass : α → α}
    (h : ∀ r, toClass r.bare = (toClass r).map bareClass) (log : List Registration) :
    (log.filterMap toClass).map bareClass = (log.map bare).filterMap toClass := by
  rw [List.map_filterMap, List.filterMap_map]
  congr 1
  funext r
  exact (h r).symm

end Registration

open Registration

/-- A slot finds the same overload, but for its kernel, whatever the kernels. -/
theorem FixedSlots.Holds.map_get? {Op Sig Kernel : Type} [Catalogue Op] [DecidableEq Op]
    [DecidableEq Sig] {s s' : FixedSlots Op Sig Kernel} {os os' : List (Overload Op Sig Kernel)}
    (h : s.Holds os) (h' : s'.Holds os') {kernel : Kernel}
    (hsame : os'.map (·.withKernel kernel) = os.map (·.withKernel kernel)) (op : Op) (k : Sig) :
    ((s'.get op).get? k).map (·.withKernel kernel) =
      ((s.get op).get? k).map (·.withKernel kernel) := by
  have hfind (os : List (Overload Op Sig Kernel)) :
      (os.find? fun o => o.operator = op && o.signature = k).map (·.withKernel kernel) =
        (os.map (·.withKernel kernel)).find? fun o => o.operator = op && o.signature = k := by
    rw [List.find?_map]
    rfl
  rw [h.get?_eq, h'.get?_eq, hfind, hfind, hsame]

theorem VariadicSlots.Holds.map_slot {s s' : VariadicSlots} {os os' : List VariadicOverload}
    (h : s.Holds os) (h' : s'.Holds os') {kernel : VariadicKernel}
    (hsame : os'.map (·.withKernel kernel) = os.map (·.withKernel kernel))
    (op : VariadicOperator) :
    (s'.get op).map (·.withKernel kernel) = (s.get op).map (·.withKernel kernel) := by
  have hfilter (os : List VariadicOverload) :
      (os.filter (·.operator = op)).map (·.withKernel kernel) =
        (os.map (·.withKernel kernel)).filter (·.operator = op) := by
    rw [List.filter_map]
    rfl
  rw [h, h', hfilter, hfilter, hsame]

namespace Registry

variable {r r' : Registry} {log log' : List Registration} {c : Call}

section Variadic

variable (op : VariadicOperator) (kernel : VariadicKernel) (os : List VariadicOverload)

theorem map_arity_withKernel :
    (os.map (·.withKernel kernel)).map (·.signature.arity) = os.map (·.signature.arity) := by
  rw [List.map_map]
  rfl

theorem filter_withKernel (test : VariadicSignature → Bool) :
    (os.map (·.withKernel kernel)).filter (test ·.signature) =
      (os.filter (test ·.signature)).map (·.withKernel kernel) := by
  rw [List.filter_map]
  rfl

theorem selectVariadic_map (operand : LogicalType) (count : Nat) :
    selectVariadic op (os.map (·.withKernel kernel)) operand count =
      (·.withKernel kernel) <$> selectVariadic op os operand count := by
  simp only [selectVariadic, Traced.map_eq,
    filter_withKernel kernel os fun s => decide (s.operand = operand), map_arity_withKernel,
    List.isEmpty_map]
  generalize os.filter (·.signature.operand = operand) = candidates
  have hfind : (candidates.map (·.withKernel kernel)).find? (·.signature.arity.contains count) =
      (candidates.find? (·.signature.arity.contains count)).map (·.withKernel kernel) := by
    rw [List.find?_map]
    rfl
  rw [hfind]
  cases candidates.find? (·.signature.arity.contains count) with
  | some o => rfl
  | none =>
    simp only [Option.map_none]
    split <;> rfl

theorem selectNullary_map :
    selectNullary op (os.map (·.withKernel kernel)) =
      (·.withKernel kernel) <$> selectNullary op os := by
  simp only [selectNullary, Traced.map_eq,
    filter_withKernel kernel os fun s => s.arity.contains 0, map_arity_withKernel,
    List.isEmpty_map]
  generalize os.filter (·.signature.arity.contains 0) = accepting
  cases accepting with
  | nil =>
    simp only [List.map_nil]
    split <;> rfl
  | cons o rest => cases rest <;> rfl

end Variadic

/-- Resolution is the same, but for the kernel of what is selected, whatever the kernels. -/
theorem resolveUnary_withKernel {os os' : List UnaryOverload} (h : r.tables.unary.Holds os)
    (h' : r'.tables.unary.Holds os') {kernel : UnaryKernel}
    (hsame : os'.map (·.withKernel kernel) = os.map (·.withKernel kernel)) (op : UnaryOperator)
    (operand : LogicalType) :
    (·.withKernel kernel) <$> r'.resolveUnary op operand =
      (·.withKernel kernel) <$> r.resolveUnary op operand := by
  rw [resolveUnary_eq, resolveUnary_eq, Traced.map_ofOption, Traced.map_ofOption,
    h.map_get? h' hsame]

theorem resolveBinary_withKernel {os os' : List BinaryOverload} (h : r.tables.binary.Holds os)
    (h' : r'.tables.binary.Holds os') {kernel : BinaryKernel}
    (hsame : os'.map (·.withKernel kernel) = os.map (·.withKernel kernel)) (op : BinaryOperator)
    (left right : LogicalType) :
    (·.withKernel kernel) <$> r'.resolveBinary op left right =
      (·.withKernel kernel) <$> r.resolveBinary op left right := by
  rw [resolveBinary_eq, resolveBinary_eq, Traced.map_ofOption, Traced.map_ofOption,
    h.map_get? h' hsame]

theorem resolveOperands_withKernel {os os' : List VariadicOverload} (h : r.tables.variadic.Holds os)
    (h' : r'.tables.variadic.Holds os') {kernel : VariadicKernel}
    (hsame : os'.map (·.withKernel kernel) = os.map (·.withKernel kernel)) (op : VariadicOperator)
    (operands : List Batch) :
    (·.withKernel kernel) <$> r'.resolveOperands op operands =
      (·.withKernel kernel) <$> r.resolveOperands op operands := by
  have hslot := h.map_slot h' hsame op
  match operands with
  | [] =>
    simp only [resolveOperands, resolveNullary]
    rw [← selectNullary_map, ← selectNullary_map, hslot]
  | first :: rest =>
    simp only [resolveOperands, resolveVariadic]
    split
    · rw [← selectVariadic_map, ← selectVariadic_map, hslot]
    · rfl

theorem select_bare (h : r.tables.Holds log) (h' : r'.tables.Holds log')
    (hsame : log'.map bare = log.map bare) (c : Call) :
    bare <$> r'.select c = bare <$> r.select c := by
  have hclass {α : Type} {toClass : Registration → Option α} {bareClass : α → α}
      (hbare : ∀ r, toClass r.bare = (toClass r).map bareClass) :
      (log'.filterMap toClass).map bareClass = (log.filterMap toClass).map bareClass := by
    rw [map_bare_filterMap hbare, map_bare_filterMap hbare, hsame]
  have hmap {α : Type} (ofClass : α → Registration) (bareClass : α → α)
      (hbare : ∀ a, (ofClass a).bare = ofClass (bareClass a)) (x : Traced α) :
      bare <$> ofClass <$> x = ofClass <$> bareClass <$> x := by
    simp only [Traced.map_map, Function.comp_def, hbare]
  cases c with
  | unary op operand =>
    have hop := resolveUnary_withKernel h.unary h'.unary (hclass fun r => by cases r <;> rfl) op
      operand.type
    simp only [select, hmap unary (Overload.withKernel _) fun _ => rfl, hop]
  | binary op left right =>
    have hop := resolveBinary_withKernel h.binary h'.binary (hclass fun r => by cases r <;> rfl) op
      left.type right.type
    simp only [select, hmap binary (Overload.withKernel _) fun _ => rfl, hop]
  | variadic op operands =>
    have hop := resolveOperands_withKernel h.variadic h'.variadic
      (hclass fun r => by cases r <;> rfl) op operands
    simp only [select, hmap variadic (Overload.withKernel _) fun _ => rfl, hop]

/-! ### Outcomes -/

theorem result_invoke_of_unselected {failure : Failure}
    (h : (r.select c).result = .error failure) : (r.invoke c).result = .error failure := by
  rw [invoke_of_unselected h]

/-- The outcome of a call that selects an overload, by the outcome of its kernel. -/
theorem result_invoke_of_selected {o : Registration} (h : (r.select c).result = .ok o) :
    ∃ outcome, o.kernelOutcome? c = some outcome ∧
      (∀ failure, outcome = .error failure → (r.invoke c).result = .error failure) ∧
      ∀ v, outcome = .ok v → (r.invoke c).result =
        if r.verifyReturnType ∧ v.type ≠ o.returns then
          .error (.returnTypeMismatch c.operator o.returns v.type)
        else .ok v := by
  obtain ⟨outcome, houtcome, hinvoke⟩ := invoke_of_selected h
  refine ⟨outcome, houtcome, ?_, ?_⟩
  · rintro failure rfl
    rw [hinvoke]
    rfl
  · rintro v rfl
    rw [hinvoke, ← checkReturnType_eq]
    rfl

/-- Registries that differ in their kernels give a call the same outcome if it selects nothing, or
if the two selected kernels agree on the operands. -/
theorem invoke_eq_of_bare (hselect : bare <$> r'.select c = bare <$> r.select c)
    (hverify : r'.verifyReturnType = r.verifyReturnType) :
    (∀ failure, (r.select c).result = .error failure → r'.invoke c = r.invoke c) ∧
    ∀ o, (r.select c).result = .ok o → ∃ o', (r'.select c).result = .ok o' ∧ o'.bare = o.bare ∧
      (o'.kernelOutcome? c = o.kernelOutcome? c → r'.invoke c = r.invoke c) := by
  rw [Traced.map_eq, Traced.map_eq, Traced.mk.injEq] at hselect
  obtain ⟨hevents, hresult⟩ := hselect
  refine ⟨fun failure h => ?_, fun o h => ?_⟩
  · rw [h] at hresult
    have h' : (r'.select c).result = .error failure := except_map_eq_error_iff.1 hresult
    rw [invoke_of_unselected h, invoke_of_unselected h', hevents]
  · rw [h] at hresult
    obtain ⟨o', h', hbare⟩ := except_map_eq_ok_iff.1 hresult
    refine ⟨o', h', hbare, fun hagree => ?_⟩
    obtain ⟨outcome, houtcome, hinvoke⟩ := invoke_of_selected h
    obtain ⟨outcome', houtcome', hinvoke'⟩ := invoke_of_selected h'
    obtain rfl : outcome' = outcome :=
      Option.some.inj (houtcome'.symm.trans (hagree.trans houtcome))
    have hreturns : o'.returns = o.returns := by
      rw [← returns_bare o', hbare, returns_bare]
    have hcheck : r'.checkReturnType = r.checkReturnType := by
      funext op declared v
      simp only [checkReturnType, hverify]
    rw [hinvoke, hinvoke', hevents, hreturns, hcheck]

/-- Checking the types of results changes nothing but batches of another type than declared. -/
theorem invoke_verified (htables : r.tables = r'.tables) (hon : r.verifyReturnType = true)
    (hoff : r'.verifyReturnType = false) :
    (∀ o v, (r'.select c).result = .ok o → (r'.invoke c).result = .ok v → v.type ≠ o.returns →
      (r.invoke c).result = .error (.returnTypeMismatch c.operator o.returns v.type)) ∧
    ((∀ o v, (r'.select c).result = .ok o → (r'.invoke c).result = .ok v → v.type = o.returns) →
      r.invoke c = r'.invoke c) := by
  have hselect := select_congr htables c
  cases hresult : (r'.select c).result with
  | error failure =>
    refine ⟨fun o v ho => (nomatch ho), fun _ => ?_⟩
    rw [invoke_of_unselected hresult, invoke_of_unselected (hselect ▸ hresult), hselect]
  | ok o =>
    obtain ⟨outcome, houtcome, hinvoke'⟩ := invoke_of_selected hresult
    obtain ⟨outcome₁, houtcome₁, hinvoke⟩ := invoke_of_selected (hselect ▸ hresult)
    obtain rfl : outcome₁ = outcome := Option.some.inj (houtcome₁.symm.trans houtcome)
    rw [hinvoke, hinvoke', hselect]
    cases outcome₁ with
    | error failure => exact ⟨fun _ _ _ hv => (nomatch hv), fun _ => rfl⟩
    | ok v =>
      simp only [Except.bind, checkReturnType_eq, hon, hoff, true_and, Bool.false_eq_true,
        false_and, if_false]
      refine ⟨fun o₁ v₁ ho hv hne => ?_, fun hsame => ?_⟩
      · obtain rfl := Except.ok.inj ho
        obtain rfl := Except.ok.inj hv
        rw [if_pos hne]
      · rw [if_neg fun hne => hne (hsame o v rfl rfl)]

end Registry

/-! ### Reached registries -/

namespace Builder

variable {b : Builder} {log : List Registration}

/-- An invocation resolves the operands' types, runs the one kernel that is selected on the operands
as they are, and checks the type of its batch. -/
theorem Reached.invocation_transparent (h : Reached b log) (c : Call) :
    let r := b.freeze.1
    -- selection is resolution, and a call that selects nothing fails for that reason
    (∀ q, c.query? = some q → r.select c = r.resolve q) ∧
    (∀ failure, (r.select c).result = .error failure → (r.invoke c).result = .error failure) ∧
    -- the selected kernel decides the outcome, but for the check
    (∀ o, (r.select c).result = .ok o → ∃ outcome, o.kernelOutcome? c = some outcome ∧
      (∀ failure, outcome = .error failure → (r.invoke c).result = .error failure) ∧
      ∀ v, outcome = .ok v → (r.invoke c).result =
        if b.settings.verifyReturnType ∧ v.type ≠ o.returns then
          .error (.returnTypeMismatch c.operator o.returns v.type)
        else .ok v) ∧
    -- no other kernel has a say, and the selected one none but on the operands
    (∀ b' log', Reached b' log' → log'.map bare = log.map bare →
      b'.settings.verifyReturnType = b.settings.verifyReturnType →
      let r' := b'.freeze.1
      (∀ failure, (r.select c).result = .error failure → r'.invoke c = r.invoke c) ∧
      ∀ o, (r.select c).result = .ok o → ∃ o', (r'.select c).result = .ok o' ∧
        o'.bare = o.bare ∧ (o'.kernelOutcome? c = o.kernelOutcome? c → r'.invoke c = r.invoke c)) ∧
    -- the same registrations without the check
    ∀ b', Reached b' log → b.settings.verifyReturnType = true →
      b'.settings.verifyReturnType = false →
      let r' := b'.freeze.1
      (∀ o v, (r'.select c).result = .ok o → (r'.invoke c).result = .ok v → v.type ≠ o.returns →
        (r.invoke c).result = .error (.returnTypeMismatch c.operator o.returns v.type)) ∧
      ((∀ o v, (r'.select c).result = .ok o → (r'.invoke c).result = .ok v →
        v.type = o.returns) → r.invoke c = r'.invoke c) := by
  intro r
  refine ⟨fun q => r.select_eq_resolve, fun failure => Registry.result_invoke_of_unselected,
    fun o => Registry.result_invoke_of_selected, fun b' log' h' hsame hverify => ?_,
    fun b' h' hon hoff => ?_⟩
  · have hselect : Registration.bare <$> b'.freeze.1.select c = Registration.bare <$> r.select c :=
      Registry.select_bare h.records.holds h'.records.holds hsame c
    exact Registry.invoke_eq_of_bare hselect hverify
  · have htables : r.tables = b'.freeze.1.tables := h.records.holds.unique h'.records.holds
    exact Registry.invoke_verified htables hon hoff

/-- A kernel that gives back its operand, declared to give another type. -/
theorem invocation_transparent_of_mistyped :
    let identity : Registration := .unary ⟨.not, ⟨.int64⟩, .bool, fun operand => .ok operand⟩
    let operand : Batch := .ofCells .int64 [some (1 : Int64), none]
    let b := (register ⟨⟨false, true⟩, .empty⟩ identity).builder
    let b' := (register ⟨⟨false, false⟩, .empty⟩ identity).builder
    (b'.freeze.1.invoke (.unary .not operand)).result = .ok operand ∧
      (b.freeze.1.invoke (.unary .not operand)).result =
        .error (.returnTypeMismatch (.unary .not) .bool .int64) := by
  intro identity operand b b'
  have hb : Reached b [identity] := .register (.start ⟨false, true⟩) identity
  have hb' : Reached b' [identity] := .register (.start ⟨false, false⟩) identity
  obtain ⟨-, -, -, -, hcheck⟩ := hb.invocation_transparent (.unary .not operand)
  have hunchecked : (b'.freeze.1.invoke (.unary .not operand)).result = .ok operand := rfl
  exact ⟨hunchecked, (hcheck b' hb' rfl rfl).1 identity operand rfl hunchecked (by decide)⟩

end Builder

end ColumnDispatch
