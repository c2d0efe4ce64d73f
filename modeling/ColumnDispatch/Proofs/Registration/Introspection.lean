import ColumnDispatch.Proofs.Registration.Counts
import ColumnDispatch.Proofs.Registration.Order
import ColumnDispatch.Proofs.Registration.Resolution

/-! Introspection against registration and resolution. The overloads that are listed for an operator
are the accepted registrations on it, each once, in the strict order of their signatures; they are
also what the queries on the operator select, each for the operands that it fits. Nothing of this
depends on the order in which the slots are read. -/

namespace ColumnDispatch

/-! ### Lists of an operator -/

namespace Operator

/-- The operators of all classes. -/
def all : List Operator :=
  Catalogue.all.map unary ++ Catalogue.all.map binary ++ Catalogue.all.map variadic

theorem mem_all (op : Operator) : op ∈ all := by
  cases op with
  | unary op => simp [all, Catalogue.mem_all op]
  | binary op => simp [all, Catalogue.mem_all op]
  | variadic op => simp [all, Catalogue.mem_all op]

theorem nodup_all : all.Nodup := by decide

end Operator

namespace Registration

/-- One line for plans and diagnostics. -/
def render : Registration → String
  | unary o => o.render
  | binary o => o.render
  | variadic o => o.render

/-- The order of introspection. Types come in the order of their numbers, the left one first, and
ranges of one type by their least counts, then an unbounded range before a bounded one, then by
their greatest counts. -/
def Precedes : Registration → Registration → Prop
  | unary o, unary p => o.signature.operand.index < p.signature.operand.index
  | binary o, binary p =>
    o.signature.left.index < p.signature.left.index ∨
      o.signature.left = p.signature.left ∧ o.signature.right.index < p.signature.right.index
  | variadic o, variadic p =>
    o.signature.operand.index < p.signature.operand.index ∨
      o.signature.operand = p.signature.operand ∧ o.signature.arity.Precedes p.signature.arity
  | _, _ => False

end Registration

/-- What introspection lists for an operator, as the registrations that the overloads came from. -/
def Registry.overloads (r : Registry) : Operator → List Registration
  | .unary op => (r.unaryOverloads op).map .unary
  | .binary op => (r.binaryOverloads op).map .binary
  | .variadic op => (r.variadicOverloads op).map .variadic

open Registration

/-! ### The accepted registrations, in order -/

section Lists

variable {Op Sig Kernel : Type} [Signature Sig] {os : List (Overload Op Sig Kernel)}

theorem Overload.sorted_perm (os : List (Overload Op Sig Kernel)) : (Overload.sorted os).Perm os :=
  List.mergeSort_perm ..

theorem Overload.pairwise_sorted [Std.TransOrd Sig] [Std.LawfulEqOrd Sig]
    (hapart : os.Pairwise fun o p => Signature.conflicts o.signature p.signature = false)
    (hself : ∀ o ∈ os, Signature.conflicts o.signature o.signature) :
    (Overload.sorted os).Pairwise fun o p => compare o.signature p.signature = .lt := by
  refine pairwise_lt_mergeSort_key Overload.signature (hapart.imp_of_mem fun {o p} ho _ hop => ?_)
  intro hsame
  have ho := hself o ho
  rw [← hsame, ho] at hop
  exact Bool.noConfusion hop

end Lists

/-- The registrations of one class that pass a test, through the overloads of the class. -/
theorem map_filter_class {α : Type} {toClass : Registration → Option α}
    {ofClass : α → Registration} (h : ∀ r a, toClass r = some a ↔ r = ofClass a)
    {test : α → Bool} {test' : Registration → Bool} (htest : ∀ a, test' (ofClass a) = test a)
    (hclass : ∀ r, test' r → ∃ a, r = ofClass a) (log : List Registration) :
    ((log.filterMap toClass).filter test).map ofClass = log.filter test' := by
  induction log with
  | nil => rfl
  | cons r rest ih =>
    cases hr : toClass r with
    | some a =>
      obtain rfl := (h r a).1 hr
      by_cases ha : test a <;> simp [hr, htest, ha, ih]
    | none =>
      have hother : ¬test' r := fun htest' => by
        obtain ⟨a, ha⟩ := hclass r htest'
        simp [(h r a).2 ha] at hr
      simp [hr, hother, ih]

namespace Registry

variable {r : Registry} {log : List Registration}

/-- An operator's list has the accepted registrations on it, each once. -/
theorem overloads_perm (h : r.tables.Holds log) (op : Operator) :
    (r.overloads op).Perm (log.filter (·.operator = op)) := by
  cases op with
  | unary op =>
    have hslot : (r.tables.unary.get op).values.map Registration.unary =
        log.filter (·.operator = .unary op) := by
      rw [h.unary.values op]
      exact map_filter_class (fun _ _ => toUnary?_eq_some_iff) (fun o => by simp [operator])
        (fun p hp => by cases p <;> simp_all [operator]) log
    exact hslot ▸ (Overload.sorted_perm _).map _
  | binary op =>
    have hslot : (r.tables.binary.get op).values.map Registration.binary =
        log.filter (·.operator = .binary op) := by
      rw [h.binary.values op]
      exact map_filter_class (fun _ _ => toBinary?_eq_some_iff) (fun o => by simp [operator])
        (fun p hp => by cases p <;> simp_all [operator]) log
    exact hslot ▸ (Overload.sorted_perm _).map _
  | variadic op =>
    have hslot : (r.tables.variadic.get op).map Registration.variadic =
        log.filter (·.operator = .variadic op) := by
      rw [h.variadic op]
      exact map_filter_class (fun _ _ => toVariadic?_eq_some_iff) (fun o => by simp [operator])
        (fun p hp => by cases p <;> simp_all [operator]) log
    exact hslot ▸ (Overload.sorted_perm _).map _

/-- An operator's list is in strict order, as no two of its registrations conflict. -/
theorem pairwise_overloads (h : r.tables.Holds log) (hc : Consistent log) (op : Operator) :
    (r.overloads op).Pairwise Precedes := by
  cases op with
  | unary op =>
    refine List.pairwise_map.2 ((Overload.pairwise_sorted ?_ ?_).imp
      UnarySignature.compare_eq_lt_iff.1)
    · rw [h.unary.values op]
      exact pairwise_signatures hc.unary op
    · exact fun o _ => UnarySignature.conflicts_iff.2 rfl
  | binary op =>
    refine List.pairwise_map.2 ((Overload.pairwise_sorted ?_ ?_).imp
      BinarySignature.compare_eq_lt_iff.1)
    · rw [h.binary.values op]
      exact pairwise_signatures hc.binary op
    · exact fun o _ => BinarySignature.conflicts_iff.2 rfl
  | variadic op =>
    have hslot := h.variadic op
    refine List.pairwise_map.2 ((Overload.pairwise_sorted ?_ fun o ho => ?_).imp
      VariadicSignature.compare_eq_lt_iff.1)
    · rw [hslot]
      exact pairwise_signatures hc.variadic op
    · rw [hslot] at ho
      exact VariadicSignature.conflicts_self_iff.2 (hc.variadic_valid (List.mem_filter.1 ho).1)

theorem describe_eq (r : Registry) (op : Operator) :
    r.describe op = (r.overloads op).map Registration.render := by
  cases op <;> simp only [describe, overloads, List.map_map] <;> rfl

end Registry

/-! ### Queries -/

namespace Registration

variable {p : Registration} {q : Query}

theorem operator_eq_of_fits (h : p.fits q) : p.operator = q.operator := by
  cases q <;> cases p <;> simp_all [fits, toUnary?, toBinary?, toVariadic?, operator, Query.operator]

/-- A registration that may be accepted fits some query. -/
theorem exists_fits (h : p.hasValidArity) : ∃ q, p.fits q := by
  cases p with
  | unary o => exact ⟨.unary o.operator o.signature.operand, by simp [fits, toUnary?]⟩
  | binary o =>
    exact ⟨.binary o.operator o.signature.left o.signature.right, by simp [fits, toBinary?]⟩
  | variadic o =>
    have hmin := Arity.contains_min (a := o.signature.arity) h
    refine ⟨.variadic o.operator o.signature.operand o.signature.arity.min, ?_⟩
    simp [fits, toVariadic?, VariadicSignature.accepts, hmin]

end Registration

namespace Registry

variable {r r' : Registry} {log : List Registration}

/-- A query selects the accepted registration that fits it. -/
theorem resolve_eq_ok_iff_fits (h : r.tables.Holds log) (hc : Consistent log) {q : Query}
    {p : Registration} : (r.resolve q).result = .ok p ↔ p ∈ log ∧ p.fits q := by
  have hone : (log.filter (·.fits q)).length ≤ 1 :=
    length_filter_le_one <| hc.apart.imp fun hapart hboth => by
      simp [conflicts_of_fits hboth.1 hboth.2] at hapart
  rw [resolve_eq_ok_iff h]
  constructor
  · intro hfind
    exact ⟨List.mem_of_find?_eq_some hfind, by simpa using List.find?_some hfind⟩
  · rintro ⟨hp, hfits⟩
    cases hfind : log.find? (·.fits q) with
    | none => exact absurd hfits (by simpa using List.find?_eq_none.1 hfind p hp)
    | some p' =>
      have hfits' : p'.fits q := by simpa using List.find?_some hfind
      rw [eq_of_length_filter_le_one hone hp (List.mem_of_find?_eq_some hfind) hfits hfits']

theorem mem_overloads_iff (h : r.tables.Holds log) {op : Operator} {p : Registration} :
    p ∈ r.overloads op ↔ p ∈ log ∧ p.operator = op := by
  rw [(overloads_perm h op).mem_iff, List.mem_filter, decide_eq_true_eq]

/-- What the queries on an operator select is what is listed for it. -/
theorem exists_resolve_iff (h : r.tables.Holds log) (hc : Consistent log) {op : Operator}
    {p : Registration} :
    (∃ q, q.operator = op ∧ (r.resolve q).result = .ok p) ↔ p ∈ r.overloads op := by
  simp only [resolve_eq_ok_iff_fits h hc, mem_overloads_iff h]
  constructor
  · rintro ⟨q, rfl, hp, hfits⟩
    exact ⟨hp, operator_eq_of_fits hfits⟩
  · rintro ⟨hp, rfl⟩
    obtain ⟨q, hfits⟩ := exists_fits (hc.valid p hp)
    exact ⟨q, (operator_eq_of_fits hfits).symm, hp, hfits⟩

/-! ### Numbers of overloads -/

theorem size_eq_length (h : r.tables.Holds log) : r.size = log.length := h.size

theorem sum_length_overloads (h : r.tables.Holds log) :
    (Operator.all.map fun op => (r.overloads op).length).sum = log.length := by
  simp only [(overloads_perm h _).length_eq]
  exact sum_length_filter_all Registration.operator Operator.nodup_all Operator.mem_all log

theorem forall_overloads_eq_nil_iff (h : r.tables.Holds log) :
    (∀ op, r.overloads op = []) ↔ log = [] := by
  simp only [List.eq_nil_iff_forall_not_mem, mem_overloads_iff h, not_and]
  exact ⟨fun hnone p hp => hnone p.operator p hp rfl, fun hnone op p hp => absurd hp (hnone p)⟩

/-! ### Slots read in another order -/

namespace SameAnswers

theorem overloads (h : r.SameAnswers r') (op : Operator) : r.overloads op = r'.overloads op := by
  cases op <;>
    simp only [Registry.overloads, h.unaryOverloads, h.binaryOverloads, h.variadicOverloads]

theorem resolve (h : r.SameAnswers r') (q : Query) : r.resolve q = r'.resolve q := by
  cases q <;> simp only [Registry.resolve, h.resolveUnary, h.resolveBinary, h.resolveVariadic]

end SameAnswers

end Registry

namespace Builder

variable {b : Builder} {log : List Registration}

/-- Introspection, resolution and the sizes of a builder and of the registry that it becomes, in
whatever order the slots are read, all agree with the accepted registrations. -/
theorem Reached.introspection_agrees (h : Reached b log) {tables : Tables}
    (hp : b.tables.Perm tables) :
    let r : Registry := ⟨tables, b.settings.verifyReturnType⟩
    (∀ op,
      r.overloads op = b.freeze.1.overloads op ∧
      (r.overloads op).Pairwise Precedes ∧
      (r.overloads op).Perm (log.filter (·.operator = op)) ∧
      (∀ p, (∃ q, q.operator = op ∧ (r.resolve q).result = .ok p) ↔ p ∈ r.overloads op) ∧
      (∀ p ∈ r.overloads op, ∀ q, p.fits q → (r.resolve q).result = .ok p) ∧
      r.describe op = (r.overloads op).map Registration.render) ∧
    b.size = log.length ∧ r.size = log.length ∧
    (Operator.all.map fun op => (r.overloads op).length).sum = log.length ∧
    (b.isEmpty ↔ ∀ op, r.overloads op = []) ∧ (r.isEmpty ↔ ∀ op, r.overloads op = []) := by
  intro r
  have hholds : b.freeze.1.tables.Holds log := h.records.holds
  have hc := h.records.consistent
  have hsame : b.freeze.1.SameAnswers r :=
    Registry.sameAnswers_of_perm hp h.records.tables_unambiguous rfl
  have hsize : b.freeze.1.size = log.length := Registry.size_eq_length hholds
  have hempty : (∀ op, b.freeze.1.overloads op = []) ↔ log.length = 0 := by
    rw [Registry.forall_overloads_eq_nil_iff hholds, List.length_eq_zero_iff]
  simp only [← hsame.overloads, ← hsame.resolve, ← hsame.describe, ← hsame.size, ← hsame.isEmpty]
  refine ⟨fun op => ⟨trivial, Registry.pairwise_overloads hholds hc op,
    Registry.overloads_perm hholds op, fun p => Registry.exists_resolve_iff hholds hc,
    fun p hmem q hfits => ?_, Registry.describe_eq _ op⟩, hsize, hsize,
    Registry.sum_length_overloads hholds, ?_, ?_⟩
  · have hlog := ((Registry.mem_overloads_iff hholds).1 hmem).1
    exact (Registry.resolve_eq_ok_iff_fits hholds hc).2 ⟨hlog, hfits⟩
  · rw [hempty, ← hsize]
    exact decide_eq_true_iff
  · rw [hempty, ← hsize]
    exact decide_eq_true_iff

/-- Two ranges of a variadic operator with a unary overload between them, read in another order. -/
theorem introspection_agrees_of_ranges :
    let few : Registration := .variadic ⟨.concat, ⟨.string, .between 0 2⟩, .string, Kernel.concat⟩
    let many : Registration := .variadic ⟨.concat, ⟨.string, .atLeast 3⟩, .string, Kernel.concat⟩
    let negation : Registration := .unary ⟨.negate, ⟨.int64⟩, .int64, Kernel.negate⟩
    let b := empty.run [many, negation, few]
    let tables := (empty.run [few, negation, many]).tables
    let r : Registry := ⟨tables, b.settings.verifyReturnType⟩
    b.tables.Perm tables ∧ (r.overloads (.variadic .concat)).Pairwise Precedes ∧
      (r.overloads (.variadic .concat)).Perm [many, few] ∧ r.size = 3 := by
  intro few many negation b tables r
  have hb : Reached b [many, negation, few] :=
    .register (.register (.register (.start {}) many) negation) few
  have hother : Reached (empty.run [few, negation, many]) [few, negation, many] :=
    .register (.register (.register (.start {}) few) negation) many
  have hreversed : [many, negation, few].Perm [few, negation, many] :=
    (List.reverse_perm [many, negation, few]).symm
  have hp : b.tables.Perm tables := hb.records.holds.perm hother.records.holds hreversed
  obtain ⟨hlists, -, hsize, -⟩ := hb.introspection_agrees hp
  obtain ⟨-, hordered, hperm, -⟩ := hlists (.variadic .concat)
  exact ⟨hp, hordered, hperm, hsize⟩

end Builder

end ColumnDispatch
