import ColumnDispatch.Proofs.OrderFree
import ColumnDispatch.Proofs.Registration.Runs
import ColumnDispatch.Registry.Resolve

/-! Resolution, read off the calls that made the registry. A call is accepted if nothing before it
is in its way, and a query is answered with the one accepted call that fits it. Both look at the
calls on one operator only, and a refused call leaves nothing behind. -/

namespace ColumnDispatch

/-! ### Queries -/

/-- What can be resolved: an operator on operand types and, if it is variadic, an operand count. -/
inductive Query where
  | unary (op : UnaryOperator) (operand : LogicalType)
  | binary (op : BinaryOperator) (left right : LogicalType)
  | variadic (op : VariadicOperator) (operand : LogicalType) (count : Nat)

def Query.operator : Query → Operator
  | .unary op _ => .unary op
  | .binary op _ _ => .binary op
  | .variadic op _ _ => .variadic op

/-- The answer of a registry, as the registration that the selected overload came from. -/
def Registry.resolve (r : Registry) : Query → Traced Registration
  | .unary op operand => .unary <$> r.resolveUnary op operand
  | .binary op left right => .binary <$> r.resolveBinary op left right
  | .variadic op operand count => .variadic <$> r.resolveVariadic op operand count

namespace Registration

/-- Whether the registration is of the operator and takes exactly the operands of a query. -/
def fits (r : Registration) : Query → Bool
  | .unary op operand => r.toUnary?.any fun o => o.operator = op && o.signature = ⟨operand⟩
  | .binary op left right => r.toBinary?.any fun o => o.operator = op && o.signature = ⟨left, right⟩
  | .variadic op operand count =>
    r.toVariadic?.any fun o => o.operator = op && o.signature.accepts operand count

variable {r s : Registration} {q : Query}

theorem conflicts_of_fits (hr : r.fits q) (hs : s.fits q) : r.conflicts s := by
  cases q with
  | unary op operand =>
    cases r <;> cases s <;>
      simp_all [fits, conflicts, Overload.conflicts, toUnary?, UnarySignature.conflicts_iff]
  | binary op left right =>
    cases r <;> cases s <;>
      simp_all [fits, conflicts, Overload.conflicts, toBinary?, BinarySignature.conflicts_iff]
  | variadic op operand count =>
    cases r <;> cases s <;>
      simp_all [fits, conflicts, Overload.conflicts, toVariadic?, VariadicSignature.conflicts_iff]
    exact ⟨operand, count, hr.2, hs.2⟩

end Registration

/-! ### Slots of a log -/

section Slots

open Registration

theorem filter_class {α : Type} {toClass : Registration → Option α} {test : α → Bool}
    {test' : Registration → Bool} (h : ∀ r a, toClass r = some a → test' r = test a)
    (log : List Registration) :
    (log.filterMap toClass).filter test = (log.filter test').filterMap toClass := by
  rw [List.filter_filterMap, List.filterMap_filter]
  congr 1
  funext r
  cases hr : toClass r with
  | none => simp
  | some a => simp [Option.filter, h r a hr]

theorem filter_unary (op : UnaryOperator) (log : List Registration) :
    (log.filterMap toUnary?).filter (·.operator = op) =
      (log.filter (·.operator = .unary op)).filterMap toUnary? := by
  refine filter_class (fun r o hr => ?_) log
  rw [toUnary?_eq_some_iff.1 hr]
  simp [operator]

theorem filter_binary (op : BinaryOperator) (log : List Registration) :
    (log.filterMap toBinary?).filter (·.operator = op) =
      (log.filter (·.operator = .binary op)).filterMap toBinary? := by
  refine filter_class (fun r o hr => ?_) log
  rw [toBinary?_eq_some_iff.1 hr]
  simp [operator]

theorem filter_variadic (op : VariadicOperator) (log : List Registration) :
    (log.filterMap toVariadic?).filter (·.operator = op) =
      (log.filter (·.operator = .variadic op)).filterMap toVariadic? := by
  refine filter_class (fun r o hr => ?_) log
  rw [toVariadic?_eq_some_iff.1 hr]
  simp [operator]

theorem FixedSlots.Holds.get?_eq {Op Sig Kernel : Type} [Catalogue Op] [DecidableEq Op]
    [DecidableEq Sig] {s : FixedSlots Op Sig Kernel} {os : List (Overload Op Sig Kernel)}
    (h : s.Holds os) (op : Op) (k : Sig) :
    (s.get op).get? k = os.find? fun o => o.operator = op && o.signature = k := by
  simp only [Keyed.get?, h op, List.find?_map, Option.map_map, List.find?_filter,
    Function.comp_def, Option.map_id']
  congr 1
  funext o
  simp

theorem VariadicSlots.Holds.find?_eq {s : VariadicSlots} {os : List VariadicOverload}
    (h : s.Holds os) (op : VariadicOperator) (operand : LogicalType) (count : Nat) :
    (s.get op).find? (·.signature.accepts operand count) =
      os.find? fun o => o.operator = op && o.signature.accepts operand count := by
  rw [h op, List.find?_filter]
  congr 1
  funext o
  simp

end Slots

/-! ### Answers -/

namespace Registry

open Registration

variable {r r' : Registry} {log log' : List Registration} {q : Query}

theorem resolve_eq_ok_iff (h : r.tables.Holds log) {p : Registration} :
    (r.resolve q).result = .ok p ↔ log.find? (·.fits q) = some p := by
  cases q with
  | unary op operand =>
    have hfind : log.find? (·.fits (.unary op operand)) =
        ((r.tables.unary.get op).get? ⟨operand⟩).map .unary := by
      rw [h.unary.get?_eq]
      exact find?_unary log _
    rw [hfind, resolve, Traced.result_map, resolveUnary]
    cases (r.tables.unary.get op).get? ⟨operand⟩ with
    | some o => simp [pure, Except.map]
    | none => simp [Traced.fail, Except.map]
  | binary op left right =>
    have hfind : log.find? (·.fits (.binary op left right)) =
        ((r.tables.binary.get op).get? ⟨left, right⟩).map .binary := by
      rw [h.binary.get?_eq]
      exact find?_binary log _
    rw [hfind, resolve, Traced.result_map, resolveBinary]
    cases (r.tables.binary.get op).get? ⟨left, right⟩ with
    | some o => simp [pure, Except.map]
    | none => simp [Traced.fail, Except.map]
  | variadic op operand count =>
    have hfind : log.find? (·.fits (.variadic op operand count)) =
        ((r.tables.variadic.get op).find? (·.signature.accepts operand count)).map .variadic := by
      rw [h.variadic.find?_eq]
      exact find?_variadic log _
    rw [hfind, resolve, Traced.result_map, resolveVariadic, selectVariadic, find?_candidates]
    cases (r.tables.variadic.get op).find? (·.signature.accepts operand count) with
    | some o => simp [pure, Except.map]
    | none =>
      split
      · simp_all
      · split <;> simp [Traced.fail, Except.map]

/-- A registry answers from what the log has on the operator. -/
theorem resolve_congr (h : r.tables.Holds log) (h' : r'.tables.Holds log')
    (hq : log.filter (·.operator = q.operator) = log'.filter (·.operator = q.operator)) :
    r.resolve q = r'.resolve q := by
  cases q with
  | unary op operand =>
    have hslot : r.tables.unary.get op = r'.tables.unary.get op := by
      apply Keyed.ext
      rw [h.unary op, h'.unary op, filter_unary, filter_unary]
      exact congrArg _ (congrArg _ hq)
    simp only [resolve, resolveUnary, hslot]
  | binary op left right =>
    have hslot : r.tables.binary.get op = r'.tables.binary.get op := by
      apply Keyed.ext
      rw [h.binary op, h'.binary op, filter_binary, filter_binary]
      exact congrArg _ (congrArg _ hq)
    simp only [resolve, resolveBinary, hslot]
  | variadic op operand count =>
    have hslot : r.tables.variadic.get op = r'.tables.variadic.get op := by
      rw [h.variadic op, h'.variadic op, filter_variadic, filter_variadic]
      exact congrArg _ hq
    simp only [resolve, resolveVariadic, hslot]

end Registry

/-! ### Calls -/

/-- Whether a registration is in order after some calls, of which some were accepted. A fixed
signature must be one that no call has had, a range one that shares no count with an accepted one. -/
def Registration.Admissible (calls accepted : List Registration) : Registration → Prop
  | .unary o => ∀ p, .unary p ∈ calls →
      ¬(p.operator = o.operator ∧ p.signature.operand = o.signature.operand)
  | .binary o => ∀ p, .binary p ∈ calls →
      ¬(p.operator = o.operator ∧ p.signature.left = o.signature.left ∧
        p.signature.right = o.signature.right)
  | .variadic o => (∀ max ∈ o.signature.arity.max, o.signature.arity.min ≤ max) ∧
      ∀ p, .variadic p ∈ accepted → p.operator = o.operator →
        p.signature.operand = o.signature.operand →
          ¬∃ count, p.signature.arity.contains count ∧ o.signature.arity.contains count

namespace Builder

open Registration

section Calls

variable {b : Builder} {calls : List Registration}

theorem forall_not_conflicts_iff {α : Type} {ofClass : α → Registration} {inWay : α → Prop}
    {r : Registration} (h : ∀ q : Registration, q.conflicts r ↔ ∃ a, q = ofClass a ∧ inWay a)
    (log : List Registration) :
    (∀ q ∈ log, q.conflicts r = false) ↔ ∀ a, ofClass a ∈ log → ¬inWay a := by
  constructor
  · intro hfree a ha hway
    simpa [hfree _ ha] using (h _).2 ⟨a, rfl, hway⟩
  · intro hnew q hq
    refine Bool.eq_false_iff.2 fun hconflict => ?_
    obtain ⟨a, rfl, hway⟩ := (h q).1 hconflict
    exact hnew a hq hway

/-- In a fixed class the refused calls are in the way of the same registrations as the accepted ones
that they repeat. -/
theorem Records.forall_accepted_iff (h : Records b []) {r : Registration}
    (hfixed : ∀ p q : Registration, p.conflicts r →
      p.hasValidArity ∧ (q.conflicts p → q.conflicts r)) :
    (∀ q ∈ b.accepted calls, q.conflicts r = false) ↔ ∀ p ∈ calls, p.conflicts r = false := by
  constructor
  · intro hfree p hp
    refine Bool.eq_false_iff.2 fun hconflict => ?_
    obtain ⟨q, hq, hqp⟩ := h.exists_conflict hp (hfixed p p hconflict).1
    simpa [hfree q hq] using (hfixed p q hconflict).2 hqp
  · exact fun hnew q hq => hnew q ((accepted_sublist b calls).subset hq)

theorem Records.refusal?_eq_none_iff_admissible (h : Records b []) (r : Registration) :
    refusal? (b.accepted calls) r = none ↔ r.Admissible calls (b.accepted calls) := by
  rw [refusal?_eq_none_iff]
  cases r with
  | unary o =>
    have hfixed (p q : Registration) (hp : p.conflicts (.unary o)) :
        p.hasValidArity ∧ (q.conflicts p → q.conflicts (.unary o)) := by
      obtain ⟨p, rfl, hop, hsig⟩ := conflicts_unary_iff.1 hp
      refine ⟨rfl, fun hq => ?_⟩
      obtain ⟨q, rfl, hop', hsig'⟩ := conflicts_unary_iff.1 hq
      exact conflicts_unary_iff.2 ⟨q, rfl, hop'.trans hop, hsig'.trans hsig⟩
    rw [h.forall_accepted_iff hfixed, forall_not_conflicts_iff fun _ => conflicts_unary_iff]
    simp [hasValidArity, Admissible, UnarySignature.ext_iff]
  | binary o =>
    have hfixed (p q : Registration) (hp : p.conflicts (.binary o)) :
        p.hasValidArity ∧ (q.conflicts p → q.conflicts (.binary o)) := by
      obtain ⟨p, rfl, hop, hsig⟩ := conflicts_binary_iff.1 hp
      refine ⟨rfl, fun hq => ?_⟩
      obtain ⟨q, rfl, hop', hsig'⟩ := conflicts_binary_iff.1 hq
      exact conflicts_binary_iff.2 ⟨q, rfl, hop'.trans hop, hsig'.trans hsig⟩
    rw [h.forall_accepted_iff hfixed, forall_not_conflicts_iff fun _ => conflicts_binary_iff]
    simp [hasValidArity, Admissible, BinarySignature.ext_iff]
  | variadic o =>
    rw [forall_not_conflicts_iff fun _ => conflicts_variadic_iff]
    simp [hasValidArity, Admissible, Arity.isValid_iff]

end Calls

/-- The calls on a new builder tell which are accepted and what the registry then answers. -/
theorem run_determines_resolution (settings : Settings) (calls : List Registration) :
    let b : Builder := ⟨settings, .empty⟩
    let accepted := b.accepted calls
    let r := (b.run calls).freeze.1
    (∀ call, ((b.run calls).register call).failure? = none ↔ call.Admissible calls accepted) ∧
    (∀ q p, (r.resolve q).result = .ok p ↔ accepted.filter (·.fits q) = [p]) ∧
    (∀ q, (∃ p, (r.resolve q).result = .ok p) ↔ ∃ p ∈ accepted, p.fits q) ∧
    (∀ q, r.resolve q = (b.run (calls.filter (·.operator = q.operator))).freeze.1.resolve q) ∧
    ∀ q, r.resolve q = (b.run (accepted.filter (·.operator = q.operator))).freeze.1.resolve q := by
  intro b accepted r
  have hstart : Records b [] := records_empty settings
  have hrun : Records (b.run calls) accepted := hstart.run calls
  have hone (q : Query) : (accepted.filter (·.fits q)).length ≤ 1 :=
    length_filter_le_one <| hrun.consistent.apart.imp fun hapart hboth => by
      simp [conflicts_of_fits hboth.1 hboth.2] at hapart
  refine ⟨fun call => ?_, fun q p => ?_, fun q => ?_, fun q => ?_, fun q => ?_⟩
  · rw [hrun.failure?_register]
    exact hstart.refusal?_eq_none_iff_admissible call
  · exact (Registry.resolve_eq_ok_iff (r := r) hrun.holds).trans (find?_eq_some_iff_filter (hone q))
  · simp only [Registry.resolve_eq_ok_iff (r := r) hrun.holds, ← Option.isSome_iff_exists,
      List.find?_isSome]
  · have hrun' := hstart.run (calls.filter (·.operator = q.operator))
    refine Registry.resolve_congr hrun.holds hrun'.holds ?_
    rw [List.nil_append, hstart.accepted_filter hstart, List.filter_filter]
    simp [accepted]
  · have hsub : Consistent ([] ++ accepted.filter (·.operator = q.operator)) :=
      hrun.consistent.sublist List.filter_sublist
    have hrun' := hstart.run (accepted.filter (·.operator = q.operator))
    refine Registry.resolve_congr hrun.holds hrun'.holds ?_
    rw [hstart.accepted_eq_self_iff.2 hsub, List.nil_append, List.filter_filter]
    simp

end Builder

end ColumnDispatch
